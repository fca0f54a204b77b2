import PollAssert.Text.Unseen

/-!
# Quoted text

How reports show a text or a character: between quotes, so that its ends, its line breaks and its
invisible characters can be seen. A character is written in one of three ways:

* as a **letter** behind a backslash: NUL, tab, line feed, carriage return, the backslash itself and
  the quote in use;
* by its **number**, `\u` and the lower-case hexadecimal code in braces, if it is not shown as
  itself (`isUnseen`);
* as **itself** otherwise. In particular the other kind of quote needs no escape.
-/

namespace PollAssert

/-- The quote around texts. -/
def textQuote : Char := Char.ofNat 34

/-- The quote around single characters. -/
def charQuote : Char := Char.ofNat 39

/-- The letter that stands for a character behind a backslash, within the given quotes. -/
def escapeLetter? (quote c : Char) : Option Char :=
  if c.toNat = 0 then some '0'
  else if c = '\t' then some 't'
  else if c = '\n' then some 'n'
  else if c = '\r' then some 'r'
  else if c = '\\' then some '\\'
  else if c = quote then some quote
  else none

/-- One character as it stands within the given quotes. -/
def escapeChar (quote c : Char) : List Char :=
  match escapeLetter? quote c with
  | some letter => ['\\', letter]
  | none =>
    if isUnseen c then ['\\', 'u', '\x7b'] ++ Nat.toDigits 16 c.toNat ++ ['\x7d'] else [c]

/-- Characters between the given quotes. -/
def quoteWith (quote : Char) (cs : List Char) : String :=
  String.ofList (quote :: cs.flatMap (escapeChar quote) ++ [quote])

/-- A text between double quotes. -/
def quoteText (s : String) : String := quoteWith textQuote s.toList

/-- A character between single quotes. -/
def quoteChar (c : Char) : String := quoteWith charQuote [c]

/-! ### Searching -/

/-- Does `needle` occur somewhere in the text? The empty needle occurs everywhere. -/
def occursIn (needle : List Char) : List Char → Bool
  | [] => needle.isEmpty
  | c :: cs => needle.isPrefixOf (c :: cs) || occursIn needle cs

end PollAssert
