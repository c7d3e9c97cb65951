import PageAudit.Charset.Codec
import PageAudit.Charset.Declaration
import PageAudit.Log.Record

/-!
# Decoding a page

The bytes of a page are decoded as they declare themselves. A label that names nothing known is
noted in the log and UTF-8 used in its place. A label that names a codec which does not decode the
bytes, or one with a null character in it, is an error.
-/

namespace PageAudit.Charset

/-- Why bytes are not decoded as they declare. -/
inductive Error where
  | refused (label : String) (fault : Fault)
  | nullInLabel
  deriving DecidableEq, Repr

namespace Error

/-- The class of the error. -/
def label : Error → String
  | refused _ (.notAscii ..) => "UnicodeDecodeError"
  | refused .. => "UnicodeError"
  | nullInLabel => "ValueError"

/-- The text of the error. -/
def message : Error → String
  | refused label .undefined =>
    s!"decoding with '{label}' codec failed (UnicodeError: undefined encoding)"
  | refused label .unreplaceable =>
    s!"decoding with '{label}' codec failed (UnicodeError: Unsupported error handling replace)"
  | refused _ (.notAscii byte position) =>
    let digits := String.ofList (Text.hexDigits 2 byte.toNat)
    s!"'ascii' codec can't decode byte 0x{digits} in position {position}: "
      ++ "ordinal not in range(128)"
  | nullInLabel => "embedded null character"

end Error

/-- The text of a page, and what has been noted in decoding it. -/
structure Decoded where
  text : String
  log : List Log.Record
  deriving DecidableEq, Repr

/-- The note on a label that names nothing known. -/
def unknownLabel (label : String) : Log.Record :=
  ⟨Log.Level.warning, Log.partLogger "document", s!"Unknown charset '{label}', decoding as utf-8"⟩

/-- Decodes bytes as a label says. -/
def decodeAs (t : Tables) (label : String) (bs : List UInt8) : Except Error Decoded :=
  if label.toList.contains '\x00' then .error .nullInLabel
  else match lookup label with
    | some c =>
      match c.decode t bs with
      | .ok s => .ok ⟨.ofList s, []⟩
      | .error fault => .error (.refused label fault)
    | none => .ok ⟨.ofList (Utf8.decode bs), [unknownLabel label]⟩

/-- Decodes bytes as they declare. -/
def decode (t : Tables) (bs : List UInt8) : Except Error Decoded :=
  decodeAs t (detect bs) bs

end PageAudit.Charset
