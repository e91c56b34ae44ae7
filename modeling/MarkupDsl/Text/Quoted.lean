import MarkupDsl.Text.LowerCase
import MarkupDsl.Text.PrintableTable

/-!
# Quoted values

Values that a message shows are put between quotes.  Single quotes are used unless the value holds a
single quote and no double quote.  The quote, the backslash and every character that cannot be
printed are escaped.
-/

namespace MarkupDsl.Text

/-- The lower-case hexadecimal digits of a number, padded with zeros to at least `width`. -/
def hexDigits (width code : Nat) : List Char :=
  let digits := Nat.toDigits 16 code
  List.replicate (width - digits.length) '0' ++ digits

def isPrintable (c : Char) : Bool := inRanges printableRanges c.toNat

def quotedChar (quote c : Char) : List Char :=
  if c = quote ∨ c = '\\' then ['\\', c]
  else if c = '\n' then ['\\', 'n']
  else if c = '\r' then ['\\', 'r']
  else if c = '\t' then ['\\', 't']
  else if isPrintable c then [c]
  else if c.toNat < 0x100 then '\\' :: 'x' :: hexDigits 2 c.toNat
  else if c.toNat < 0x10000 then '\\' :: 'u' :: hexDigits 4 c.toNat
  else '\\' :: 'U' :: hexDigits 8 c.toNat

def quoteFor (cs : List Char) : Char :=
  if cs.contains '\'' && !cs.contains '"' then '"' else '\''

def quoted (s : String) : String :=
  let quote := quoteFor s.toList
  String.ofList (quote :: s.toList.flatMap (quotedChar quote) ++ [quote])

/-- A byte inside bytes quoted by `quote`: only those of ASCII characters are shown as characters. -/
def quotedByte (quote : Char) (byte : UInt8) : List Char :=
  if byte < 128 then quotedChar quote (Char.ofNat byte.toNat)
  else '\\' :: 'x' :: hexDigits 2 byte.toNat

def quotedBytes (bytes : List UInt8) : String :=
  let quote := quoteFor (bytes.map fun byte => Char.ofNat byte.toNat)
  String.ofList ('b' :: quote :: bytes.flatMap (quotedByte quote) ++ [quote])

end MarkupDsl.Text
