-- Texts read in another encoding than they were written in. Files are written in UTF-8;
-- read as ASCII or as one byte for each letter they may be another text, or none.
import SearchQuery.Fault

namespace SearchQuery.Text

/-- A way to read bytes as letters. -/
inductive Encoding where
  | utf8
  /-- A mark at the start of the text does not belong to it. -/
  | utf8Marked
  | ascii
  /-- Every byte is a letter. -/
  | latin1
  deriving DecidableEq, Repr

namespace Encoding

/-- The names of encodings, in small letters and with `_` between words. -/
def names : List (String × Encoding) := [
  ("utf_8", .utf8), ("utf8", .utf8), ("u8", .utf8), ("utf", .utf8), ("cp65001", .utf8),
  ("utf8_ucs2", .utf8), ("utf8_ucs4", .utf8), ("utf_8_sig", .utf8Marked),
  ("ascii", .ascii), ("us_ascii", .ascii), ("us", .ascii), ("646", .ascii),
  ("iso646_us", .ascii), ("iso_646.irv_1991", .ascii), ("iso_ir_6", .ascii),
  ("ansi_x3.4_1968", .ascii), ("ansi_x3.4_1986", .ascii), ("ansi_x3_4_1968", .ascii),
  ("cp367", .ascii), ("csascii", .ascii), ("ibm367", .ascii),
  ("latin_1", .latin1), ("latin1", .latin1), ("latin", .latin1), ("l1", .latin1),
  ("iso8859_1", .latin1), ("iso_8859_1", .latin1), ("iso8859", .latin1), ("8859", .latin1),
  ("iso_8859_1_1987", .latin1), ("iso_ir_100", .latin1), ("cp819", .latin1),
  ("csisolatin1", .latin1), ("ibm819", .latin1)]

/-- The encoding of a name. -/
def ofName (name : String) : Except Fault Encoding :=
  let plain := name.map fun c => if c == '-' || c == ' ' then '_' else c.toLower
  match names.lookup plain with
  | some e => .ok e
  | none => .error (.unknownEncoding name)

/-- The text as it is read when its bytes are those of a text in UTF-8. -/
def reread (e : Encoding) (s : String) : Except Fault String :=
  match e with
  | .utf8 => .ok s
  | .utf8Marked => .ok (match s.toList with
    | '\uFEFF' :: rest => String.ofList rest
    | _ => s)
  | .ascii =>
    let bytes := s.toUTF8.toList
    let plain := bytes.takeWhile (· < 128)
    match bytes.drop plain.length with
    | [] => .ok s
    | byte :: _ => .error (.notAscii byte.toNat plain.length)
  | .latin1 => .ok (String.ofList (s.toUTF8.toList.map fun byte => Char.ofNat byte.toNat))

end Encoding

example : (Encoding.ofName "UTF-8").toOption = some .utf8 := by decide +kernel
example : (Encoding.latin1.reread "é").toOption = some "Ã©" := by decide +kernel

end SearchQuery.Text
