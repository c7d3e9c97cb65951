import PageAudit.Charset.Provided
import PageAudit.Charset.Punycode
import PageAudit.Charset.SystemPage
import PageAudit.Charset.Utf32
import PageAudit.Text.Numeral

/-!
# Codecs

A label is looked up without regard to case and punctuation, and names a codec or nothing known.
What a codec cannot decode it replaces. Two codecs never decode any bytes, and Punycode does not
decode digits beyond ASCII.
-/

namespace PageAudit.Charset

/-- A way to decode bytes. -/
inductive Codec where
  | utf8
  /-- UTF-8 of which a byte order mark at the start is dropped. -/
  | utf8Signed
  | utf16
  | utf16Little
  | utf16Big
  | utf32
  | utf32Little
  | utf32Big
  | ascii
  | latin1
  | page (page : CodePage)
  | punycode
  /-- The codec that stands for none. -/
  | undefined
  /-- The codec of domain names, which replaces nothing. -/
  | domainNames
  | provided (provided : Provided)
  deriving DecidableEq, Repr

/-- Why a codec does not decode bytes. -/
inductive Fault where
  | undefined
  | unreplaceable
  /-- A byte is not ASCII where nothing else will do. -/
  | notAscii (byte : UInt8) (position : Nat)
  deriving DecidableEq, Repr

/-- Letters, digits and points of a label, each run of other characters between them written as
one `_`. `gap` says whether such a run has just been passed. -/
def normalizeFrom (started gap : Bool) : List Char → List Char
  | [] => []
  | c :: s =>
    if c.isAlphanum || c == '.' then
      if gap && started then '_' :: c.toLower :: normalizeFrom true false s
      else c.toLower :: normalizeFrom true false s
    else normalizeFrom started true s

/-- The form in which a label is looked up. -/
def normalize (label : String) : String :=
  .ofList (normalizeFrom false false label.toList)

/-- All codecs with their names, as those of a code page. -/
def namedCodecs : List (List String × Codec) :=
  [(["utf_8", "u8", "utf", "utf8", "utf8_ucs2", "utf8_ucs4", "cp65001"], .utf8),
    (["utf_8_sig"], .utf8Signed),
    (["utf_16", "u16", "utf16"], .utf16),
    (["utf_16_le", "unicodelittleunmarked", "utf_16le"], .utf16Little),
    (["utf_16_be", "unicodebigunmarked", "utf_16be"], .utf16Big),
    (["utf_32", "u32", "utf32"], .utf32),
    (["utf_32_le", "utf_32le"], .utf32Little),
    (["utf_32_be", "utf_32be"], .utf32Big),
    (["latin_1", "8859", "cp819", "csisolatin1", "ibm819", "iso8859", "iso8859_1", "iso_8859_1",
      "iso_8859_1_1987", "iso_ir_100", "l1", "latin", "latin1"], .latin1),
    (["ascii", "646", "ansi_x3.4_1968", "ansi_x3_4_1968", "ansi_x3.4_1986", "cp367", "csascii",
      "ibm367", "iso646_us", "iso_646.irv_1991", "iso_ir_6", "us", "us_ascii"], .ascii),
    (["punycode"], .punycode),
    (["undefined"], .undefined),
    (["idna"], .domainNames)]
  ++ (codePages ++ systemPages).map (fun p => (p.names, .page p))
  ++ Provided.named.map fun (names, p) => (names, .provided p)

/-- The codec that has a name. -/
def lookupName? (name : String) : Option Codec :=
  (namedCodecs.find? (·.1.contains name)).map (·.2)

/-- As `lookupName?`, for the names of a codec other than its own. -/
def lookupAlias? (name : String) : Option Codec :=
  (namedCodecs.find? (·.1.tail.contains name)).map (·.2)

/-- The codec that a label names. A point that belongs to no name counts as punctuation, but then
only in other names. -/
def lookup (label : String) : Option Codec :=
  let name := normalize label
  match lookupName? name with
  | some c => some c
  | none =>
    if name.toList.contains '.' then
      lookupAlias? (.ofList (name.toList.map fun c => if c == '.' then '_' else c))
    else none

/-- What a codec makes of bytes. -/
def Codec.decode (t : Tables) (c : Codec) (bs : List UInt8) : Except Fault (List Char) :=
  match c with
  | utf8 => .ok (Utf8.decode bs)
  | utf8Signed => .ok (Utf8.decodeSigned bs)
  | utf16 => .ok (Utf16.decodeMarked bs)
  | utf16Little => .ok (Utf16.decode .little bs)
  | utf16Big => .ok (Utf16.decode .big bs)
  | utf32 => .ok (Utf32.decodeMarked bs)
  | utf32Little => .ok (Utf32.decode .little bs)
  | utf32Big => .ok (Utf32.decode .big bs)
  | ascii => .ok (bs.map (charOf []))
  | latin1 => .ok (bs.map fun b => Char.ofNat b.toNat)
  | page p => .ok (bs.map p.charOf)
  | punycode =>
    match (Punycode.tail bs).findIdx? (0x80 ≤ ·) with
    | some i => .error (.notAscii ((Punycode.tail bs).getD i 0) i)
    | none => .ok (Punycode.decode bs)
  | undefined => .error .undefined
  | domainNames => .error .unreplaceable
  | provided p => .ok (t.decode p bs)

end PageAudit.Charset
