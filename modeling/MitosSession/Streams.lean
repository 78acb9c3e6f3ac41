import MitosSession.Library.Bytes
import MitosSession.Basic

set_option autoImplicit false

/-! # Streams

`std::io` as the socket clients of the daemon use it: reading exactly so many bytes or a line,
until the peer closes the connection, and writing. -/

namespace MitosSession

/-- `io::ErrorKind`; the kinds nothing asks for are one. -/
inductive IoErrorKind where
  | unexpectedEof
  | invalidData
  | other
deriving DecidableEq

/-- `io::Error`. -/
structure IoError where
  kind : IoErrorKind
  message : String
deriving DecidableEq

/-- The error of `Read::read_exact` at the end of the file. -/
def IoError.readExactEof : IoError :=
  ⟨.unexpectedEof, "failed to fill whole buffer"⟩

/-- The error of `BufRead::read_line` on bytes that are no text. -/
def IoError.invalidUtf8 : IoError :=
  ⟨.invalidData, "stream did not contain valid UTF-8"⟩

/-- `SessionError::from`, for I/O errors. -/
def SessionError.ofIo (e : IoError) : SessionError :=
  .io e.message

/-- A stream to read from: the bytes still to come, and how reading on fails after them. No
    failure is the end of the file: the peer has closed the connection. -/
structure ByteReader where
  bytes : List UInt8
  failure : Option IoError := none
deriving DecidableEq

/-- `Read::read_exact` into a buffer of `n` bytes. -/
def ByteReader.readExact (self : ByteReader) (n : ℕ) : Except IoError (List UInt8) × ByteReader :=
  match takeExact n self.bytes with
  | some (bytes, rest) => (.ok bytes, { self with bytes := rest })
  | none => (.error (self.failure.getD IoError.readExactEof), { self with bytes := [] })

/-- The end of a line. -/
def newline : UInt8 := 10

/-- `BufRead::read_line` into an empty string: how many bytes were read, and the text. -/
def ByteReader.readLine (self : ByteReader) : Except IoError (ℕ × List Char) × ByteReader :=
  let (line, rest) := takeThrough (· = newline) self.bytes
  match if line.getLast? = some newline then none else self.failure with
  | some e => (.error e, { self with bytes := rest })
  | none =>
      match decodeUtf8 line with
      | some text => (.ok (line.length, text), { self with bytes := rest })
      | none => (.error .invalidUtf8, { self with bytes := rest })

theorem readExact_append {n : ℕ} {bytes : List UInt8} (h : bytes.length = n) (rest : List UInt8)
    (failure : Option IoError) :
    ByteReader.readExact ⟨bytes ++ rest, failure⟩ n = (.ok bytes, ⟨rest, failure⟩) := by
  simp only [ByteReader.readExact, takeExact_append h]

theorem readExact_short {n : ℕ} {bytes : List UInt8} (h : bytes.length < n) :
    ByteReader.readExact ⟨bytes, none⟩ n = (.error IoError.readExactEof, ⟨[], none⟩) := by
  simp only [ByteReader.readExact, takeExact_eq_none h, Option.getD_none]

theorem readLine_closed (bytes : List UInt8) :
    ByteReader.readLine ⟨bytes, none⟩
      = ((match decodeUtf8 (takeThrough (· = newline) bytes).1 with
          | some text => .ok ((takeThrough (· = newline) bytes).1.length, text)
          | none => .error .invalidUtf8),
        ⟨(takeThrough (· = newline) bytes).2, none⟩) := by
  simp only [ByteReader.readLine, ite_self]
  cases decodeUtf8 (takeThrough (· = newline) bytes).1 <;> rfl

/-! ## Writing -/

/-- A stream to write to, with a state of its own. `delivered` is what has come out at the other
    end of it. -/
structure Sink (σ : Type) where
  writeAll : List UInt8 → σ → Except IoError Unit × σ
  flush : σ → Except IoError Unit × σ
  delivered : σ → List UInt8

/-- What was accepted is delivered, in order. -/
structure Sink.Lawful {σ : Type} (sink : Sink σ) : Prop where
  writeAll : ∀ bytes w w', sink.writeAll bytes w = (.ok (), w') →
    sink.delivered w' = sink.delivered w ++ bytes
  flush : ∀ w w', sink.flush w = (.ok (), w') → sink.delivered w' = sink.delivered w

end MitosSession
