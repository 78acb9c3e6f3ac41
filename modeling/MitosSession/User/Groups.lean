import MitosSession.Library.Fields
import MitosSession.User

set_option autoImplicit false

/-! # Supplementary groups

`user/groups.rs`: reading the groups of an account out of `/etc/group`, and the list of gids that
is handed to `setgroups` before a program of the account is run. `GroupFile` is what such a file
is meant to say: a table of entries, written down with other lines in between and either line
ending. `supplementary_groups_read_exactly` is that reading undoes writing. -/

namespace MitosSession

/-- How `std::fs::read_to_string` fails; of the other failures only the text is used. -/
inductive ReadError where
  | notFound
  | other (message : String)
deriving DecidableEq

/-- What this file asks of the system: `nix::unistd::User::from_name`, an error being its text,
    and `std::fs::read_to_string`. -/
structure AccountFiles where
  fromName : String → Except String (Option User)
  readToString : String → Except ReadError String

def groupFile : String := "/etc/group"

/-- The body of the loop over the lines: the gid it pushes, if it does. -/
def gidFromLine (name : String) (line : List Char) : Option ℕ :=
  let line := trim line
  if line.isEmpty || line.head? == some '#' then
    none
  else
    let fields := line.splitOn ':'
    let gidField := fields.getD 2 []
    let membersField := fields.getD 3 []
    let isMember := (membersField.splitOn ',').any fun m => m == name.toList
    if isMember then parseU32 gidField else none

/-- `gids_from_group_file`. -/
def gidsFromGroupFile (files : AccountFiles) (path name : String) : Result (List ℕ) :=
  match files.readToString path with
  | .ok raw => .ok ((lines raw.toList).filterMap (gidFromLine name))
  | .error .notFound => .ok []
  | .error (.other message) => .error (.io message)

/-- `supplementary_gids`. -/
def supplementaryGids (files : AccountFiles) (name : String) : Result (List ℕ) :=
  match files.fromName name with
  | .error e => .error (.io e)
  | .ok none => .error (.unknownUser name)
  | .ok (some entry) => do
    let gids ← gidsFromGroupFile files groupFile name
    return gids.foldl pushNew [entry.gid]

/-! ## Group tables and how they are written -/

/-- The text of a field: no separator, no end of a line, no whitespace around it. -/
structure IsField (field : List Char) : Prop where
  noColon : ':' ∉ field
  noComma : ',' ∉ field
  noNewline : '\n' ∉ field
  trimmed : trim field = field

instance (field : List Char) : Decidable (IsField field) :=
  decidable_of_iff (':' ∉ field ∧ ',' ∉ field ∧ '\n' ∉ field ∧ trim field = field)
    ⟨fun ⟨hcolon, hcomma, hnewline, htrim⟩ => ⟨hcolon, hcomma, hnewline, htrim⟩,
      fun h => ⟨h.noColon, h.noComma, h.noNewline, h.trimmed⟩⟩

/-- An entry of a group table. -/
structure GroupEntry where
  name : List Char
  passwd : List Char
  gid : ℕ
  members : List (List Char)
  nameField : IsField name
  noComment : name.head? ≠ some '#'
  passwdField : IsField passwd
  gidFits : gid < u32Size
  memberFields : ∀ member ∈ members, IsField member

namespace GroupEntry

def membersText (self : GroupEntry) : List Char :=
  [','].intercalate self.members

def fields (self : GroupEntry) : List (List Char) :=
  [self.name, self.passwd, (toString self.gid).toList, self.membersText]

/-- `name:passwd:gid:member,member`. -/
def text (self : GroupEntry) : List Char :=
  [':'].intercalate self.fields

end GroupEntry

/-- The text of a blank line or of a comment. -/
def IsSkipped (text : List Char) : Prop :=
  '\n' ∉ text ∧ (trim text = [] ∨ (trim text).head? = some '#')

instance (text : List Char) : Decidable (IsSkipped text) :=
  inferInstanceAs (Decidable (_ ∧ (_ ∨ _)))

/-- A line of a group file. -/
inductive GroupLine where
  | entry (e : GroupEntry)
  | skipped (text : List Char) (h : IsSkipped text)

namespace GroupLine

def text : GroupLine → List Char
  | .entry e => e.text
  | .skipped text _ => text

def entry? : GroupLine → Option GroupEntry
  | .entry e => some e
  | .skipped _ _ => none

end GroupLine

inductive LineEnding where
  | lf
  | crlf

def LineEnding.text : LineEnding → List Char
  | .lf => ['\n']
  | .crlf => ['\r', '\n']

/-- A group file: lines, each with its ending, and perhaps a last one without. -/
structure GroupFile where
  terminated : List (GroupLine × LineEnding)
  last : Option GroupLine := none

namespace GroupFile

def text (self : GroupFile) : List Char :=
  (self.terminated.flatMap fun line => line.1.text ++ line.2.text)
    ++ (self.last.map GroupLine.text).getD []

/-- The group table that the file writes down. -/
def entries (self : GroupFile) : List GroupEntry :=
  (self.terminated.map Prod.fst ++ self.last.toList).filterMap GroupLine.entry?

/-- The gids of the entries that list the account, in file order. -/
def gidsOf (self : GroupFile) (name : String) : List ℕ :=
  (self.entries.filter fun entry => name.toList ∈ entry.members).map GroupEntry.gid

end GroupFile

/-! ## One line -/

theorem isField_gid (entry : GroupEntry) : IsField (toString entry.gid).toList where
  noColon := fun h => by cases isDigit_of_mem_toString h
  noComma := fun h => by cases isDigit_of_mem_toString h
  noNewline := fun h => by cases isDigit_of_mem_toString h
  trimmed := trim_eq_self_iff.2
    ⟨fun _ hc => isWhitespace_of_isDigit (isDigit_of_mem_toString (List.mem_of_head? hc)),
      fun _ hc => isWhitespace_of_isDigit (isDigit_of_mem_toString (List.mem_of_getLast? hc))⟩

namespace GroupEntry

variable (entry : GroupEntry)

/-- The members together may have commas, and are otherwise a field like the others. -/
theorem mem_fields {field : List Char} (h : field ∈ entry.fields) :
    ':' ∉ field ∧ '\n' ∉ field ∧ trim field = field := by
  have hfield : ∀ {field}, IsField field → ':' ∉ field ∧ '\n' ∉ field ∧ trim field = field :=
    fun h => ⟨h.noColon, h.noNewline, h.trimmed⟩
  simp only [fields, List.mem_cons, List.not_mem_nil, or_false] at h
  rcases h with rfl | rfl | rfl | rfl
  · exact hfield entry.nameField
  · exact hfield entry.passwdField
  · exact hfield (isField_gid entry)
  · have hchars : ∀ c ∈ entry.membersText, c ≠ ':' ∧ c ≠ '\n' := by
      refine forall_mem_intercalate (by simp) fun member hmember c hc => ⟨?_, ?_⟩
      · rintro rfl
        exact (entry.memberFields member hmember).noColon hc
      · rintro rfl
        exact (entry.memberFields member hmember).noNewline hc
    have htrim : trim entry.membersText = entry.membersText :=
      trim_intercalate (by decide) fun member hmember =>
        (entry.memberFields member hmember).trimmed
    exact ⟨fun hc => (hchars _ hc).1 rfl, fun hc => (hchars _ hc).2 rfl, htrim⟩

theorem splitOn_text : entry.text.splitOn ':' = entry.fields :=
  List.splitOn_intercalate ':' (fun _ hfield => (entry.mem_fields hfield).1) (List.cons_ne_nil _ _)

theorem trim_text : trim entry.text = entry.text :=
  trim_intercalate (by decide) fun _ hfield => (entry.mem_fields hfield).2.2

theorem noNewline_text : '\n' ∉ entry.text := by
  have hchars : ∀ c ∈ entry.text, c ≠ '\n' := by
    refine forall_mem_intercalate (by simp) fun field hfield c hc => ?_
    rintro rfl
    exact (entry.mem_fields hfield).2.1 hc
  exact fun hc => hchars _ hc rfl

theorem head?_text : entry.text.head? ≠ none ∧ entry.text.head? ≠ some '#' := by
  rw [text, fields, List.intercalate_cons_cons, List.append_assoc]
  cases hname : entry.name with
  | nil => simp
  | cons c rest =>
      have hcomment := entry.noComment
      rw [hname] at hcomment
      exact ⟨by simp, hcomment⟩

end GroupEntry

section Lines

variable {name : String}

/-- An entry gives its gid to the accounts it lists. -/
theorem gidFromLine_entry (hname : name ≠ "") (entry : GroupEntry) {line : List Char}
    (h : trim line = entry.text) :
    gidFromLine name line = if name.toList ∈ entry.members then some entry.gid else none := by
  obtain ⟨hsome, hcomment⟩ := entry.head?_text
  have hblank : entry.text.isEmpty = false := by
    rw [List.isEmpty_eq_false_iff]
    intro hnil
    rw [hnil] at hsome
    exact hsome rfl
  have hne : name.toList ≠ [] := fun hnil => hname (String.toList_inj.1 hnil)
  have hmember : (entry.membersText.splitOn ',').any (fun m => m == name.toList)
      = decide (name.toList ∈ entry.members) := by
    rw [Bool.eq_iff_iff, decide_eq_true_iff, ← mem_splitOn_intercalate
      (fun member hmember => (entry.memberFields member hmember).noComma) hne]
    simp [GroupEntry.membersText]
  simp only [gidFromLine, h, hblank, Bool.false_or, beq_eq_false_iff_ne.2 hcomment,
    entry.splitOn_text, GroupEntry.fields, Bool.false_eq_true, if_false, List.getD_cons_succ,
    List.getD_cons_zero, hmember, parseU32_toString entry.gidFits, decide_eq_true_eq]

/-- The gid a line is worth to the account. -/
def GroupLine.gidFor (self : GroupLine) (name : String) : Option ℕ :=
  (self.entry?.filter fun entry => name.toList ∈ entry.members).map GroupEntry.gid

theorem gidFromLine_eq (hname : name ≠ "") (groupLine : GroupLine) {line : List Char}
    (h : trim line = trim groupLine.text) : gidFromLine name line = groupLine.gidFor name := by
  cases groupLine with
  | entry e =>
      rw [GroupLine.text, e.trim_text] at h
      rw [gidFromLine_entry hname e h]
      simp only [GroupLine.gidFor, GroupLine.entry?, Option.filter_some, decide_eq_true_eq]
      split <;> rfl
  | skipped text hskipped =>
      have hskip : (trim line).isEmpty || (trim line).head? == some '#' := by
        rw [h, GroupLine.text]
        rcases hskipped.2 with hblank | hcomment
        · simp [hblank]
        · simp [hcomment]
      rw [gidFromLine]
      exact if_pos hskip

theorem GroupLine.noNewline (groupLine : GroupLine) : '\n' ∉ groupLine.text := by
  cases groupLine with
  | entry e => exact e.noNewline_text
  | skipped text hskipped => exact hskipped.1

/-! ## The whole file -/

/-- A line with its ending, in front of anything. -/
theorem lines_groupLine (groupLine : GroupLine) (ending : LineEnding) (rest : List Char) :
    ∃ line, lines (groupLine.text ++ ending.text ++ rest) = line :: lines rest
      ∧ trim line = trim groupLine.text := by
  cases ending with
  | lf =>
      rw [List.append_assoc]
      exact lines_terminated groupLine.noNewline rest
  | crlf =>
      -- the carriage return is whitespace at the end of the line
      have hline : '\n' ∉ groupLine.text ++ ['\r'] := by
        simpa using groupLine.noNewline
      obtain ⟨line, hlines, htrim⟩ := lines_terminated hline rest
      refine ⟨line, ?_, htrim.trans (trim_concat (by decide) _)⟩
      rw [← hlines, List.append_assoc, List.append_assoc]
      rfl

theorem gids_of_last (hname : name ≠ "") (last : Option GroupLine) :
    (lines ((last.map GroupLine.text).getD [])).filterMap (gidFromLine name)
      = last.toList.filterMap fun line => line.gidFor name := by
  cases last with
  | none => rfl
  | some groupLine =>
      have hgid : gidFromLine name groupLine.text = groupLine.gidFor name :=
        gidFromLine_eq hname groupLine rfl
      simp only [Option.map_some, Option.getD_some, lines_unterminated groupLine.noNewline,
        Option.toList_some, List.filterMap_cons, ← hgid, List.filterMap_nil]
      -- an empty line is none to `lines`, and nothing is lost
      cases htext : groupLine.text with
      | nil => rfl
      | cons c rest => rfl

/-- Reading a group file gives each account the gids the table gives it. -/
theorem gids_of_text (hname : name ≠ "") (file : GroupFile) :
    (lines file.text).filterMap (gidFromLine name) = file.gidsOf name := by
  obtain ⟨terminated, last⟩ := file
  have hgids : GroupFile.gidsOf ⟨terminated, last⟩ name
      = (terminated.map Prod.fst ++ last.toList).filterMap fun line => line.gidFor name := by
    simp only [GroupFile.gidsOf, GroupFile.entries, List.filter_filterMap, List.map_filterMap]
    rfl
  rw [hgids, List.filterMap_append, ← gids_of_last hname last, GroupFile.text]
  clear hgids
  induction terminated with
  | nil => rfl
  | cons first rest ih =>
      obtain ⟨groupLine, ending⟩ := first
      rw [List.flatMap_cons, List.append_assoc]
      obtain ⟨line, hlines, htrim⟩ := lines_groupLine groupLine ending
        (rest.flatMap (fun line => line.1.text ++ line.2.text)
          ++ (last.map GroupLine.text).getD [])
      rw [hlines, List.map_cons, List.filterMap_cons, List.filterMap_cons,
        gidFromLine_eq hname groupLine htrim, ih]
      cases groupLine.gidFor name with
      | none => rfl
      | some gid => rfl

end Lines

/-- **Supplementary groups are read exactly.** Whatever table is written down in a group file, with
    blank lines and comments anywhere and either ending on each line: an account gets the gids of
    the entries that list it, in file order, and no others; the list made for `setgroups` is the
    primary gid and then those, each gid once. -/
theorem supplementary_groups_read_exactly (files : AccountFiles) (file : GroupFile) (name : String)
    (hname : name ≠ "") :
    (∀ path, files.readToString path = .ok (String.ofList file.text) →
        gidsFromGroupFile files path name = .ok (file.gidsOf name))
      ∧ ∀ entry, files.fromName name = .ok (some entry) →
        files.readToString groupFile = .ok (String.ofList file.text) →
          ∃ rest, supplementaryGids files name = .ok (entry.gid :: rest)
            ∧ (entry.gid :: rest).Nodup
            ∧ rest.Sublist (file.gidsOf name)
            ∧ ∀ gid, gid ∈ entry.gid :: rest ↔ gid = entry.gid ∨ gid ∈ file.gidsOf name := by
  have hread : ∀ path, files.readToString path = .ok (String.ofList file.text) →
      gidsFromGroupFile files path name = .ok (file.gidsOf name) := by
    intro path hpath
    rw [gidsFromGroupFile, hpath]
    show Except.ok _ = _
    rw [String.toList_ofList, gids_of_text hname file]
  refine ⟨hread, fun entry hentry hpath => ?_⟩
  obtain ⟨rest, hrest, hnodup, hsub, hmem⟩ :=
    foldl_pushNew (file.gidsOf name) (List.nodup_singleton entry.gid)
  refine ⟨rest, ?_, hnodup, hsub, fun gid => ?_⟩
  · rw [supplementaryGids, hentry]
    show (gidsFromGroupFile files groupFile name >>= _) = _
    rw [hread groupFile hpath]
    exact congrArg Except.ok hrest
  · rw [← List.mem_singleton (a := gid)]
    exact hmem gid

section Example

/-- An entry with the password field `x`. -/
private def shadowed (name : String) (gid : ℕ) (members : List String)
    (hname : IsField name.toList ∧ name.toList.head? ≠ some '#') (hgid : gid < u32Size)
    (hmembers : ∀ member ∈ members.map String.toList, IsField member) : GroupEntry where
  name := name.toList
  passwd := ['x']
  gid := gid
  members := members.map String.toList
  nameField := hname.1
  noComment := hname.2
  passwdField := by decide
  gidFits := hgid
  memberFields := hmembers

/-- Three groups, with a comment and a blank line, and both line endings. -/
private def threeGroups : GroupFile where
  terminated :=
    [(.skipped "# local groups".toList (by decide), .lf),
      (.entry (shadowed "wheel" 10 ["root", "alice"] (by decide) (by decide) (by decide)), .crlf),
      (.skipped "  ".toList (by decide), .crlf),
      (.entry (shadowed "video" 44 ["alice", "bob"] (by decide) (by decide) (by decide)), .lf)]
  last := some (.entry (shadowed "alices" 99 ["alice2"] (by decide) (by decide) (by decide)))

private def threeGroupsOnDisk : AccountFiles where
  fromName _ := .ok (some ⟨1000, 44, "alice", "/home/alice", "/bin/sh"⟩)
  readToString _ := .ok (String.ofList threeGroups.text)

/-- Alice, whose primary group is `video`, is in `wheel` and in `video`, and not in a group of
    `alice2`. -/
theorem supplementary_groups_of_alice :
    gidsFromGroupFile threeGroupsOnDisk groupFile "alice" = .ok [10, 44]
      ∧ ∃ rest, supplementaryGids threeGroupsOnDisk "alice" = .ok (44 :: rest)
        ∧ (44 :: rest).Nodup ∧ ∀ gid, gid ∈ 44 :: rest ↔ gid = 44 ∨ gid ∈ [10, 44] := by
  obtain ⟨hread, hsupplementary⟩ :=
    supplementary_groups_read_exactly threeGroupsOnDisk threeGroups "alice" (by decide)
  have hgids : threeGroups.gidsOf "alice" = [10, 44] := by decide
  rw [hgids] at hread hsupplementary
  obtain ⟨rest, hrest, hnodup, -, hmem⟩ := hsupplementary _ rfl rfl
  exact ⟨hread groupFile rfl, rest, hrest, hnodup, hmem⟩

end Example

end MitosSession
