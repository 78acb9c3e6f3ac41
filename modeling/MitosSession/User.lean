import MitosSession.Text

set_option autoImplicit false

/-! # Accounts and the shadow file

`user::User` and `user_has_password` of `main.rs`. Looking an account up is the system's
(`User::by_name` goes through NSS), so the account database is a parameter wherever it is used. -/

namespace MitosSession

/-- `user::User`, as read from `/etc/passwd`. -/
structure User where
  uid : ℕ
  gid : ℕ
  name : String
  home : String
  shell : String
deriving DecidableEq

/-- Whether a password field of `/etc/shadow` is one PAM could ever match. -/
def usableHash (hash : List Char) : Bool :=
  !(hash.isEmpty || hash == ['!'] || hash == ['*'] || hash == ['!', '!'] || hash.head? == some '!')

/-- `user_has_password`, given the contents of `/etc/shadow`. An unreadable file and an account it
    does not list both count as having a password. -/
def userHasPassword (shadow : Option String) (username : String) : Bool :=
  match shadow with
  | none => true
  | some content =>
    let hash := (lines content.toList).findSome? fun line =>
      match line.splitOn ':' with
      | name :: hash :: _ => if name = username.toList then some hash else none
      | _ => none
    hash.all usableHash

end MitosSession
