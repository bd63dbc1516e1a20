/-
  TreeLint/Literal/Cause.lean
  ===========================
  **What can be wrong with a literal.**  Reading a literal goes through three stages, and each has causes
  of its own: the text is divided into tokens, the tokens are read as an expression, and the expression is
  worked out.  Quoted texts and formatted texts have rules inside, and so they have causes too.

  A cause knows the sentence that explains it.  Causes of the first two stages are matters of form; those
  of the third are matters of worth, and are reported without the literal.
-/
import TreeLint.Text.Quoted

namespace TreeLint.Literal

/-! ### Tokens -/

inductive TokenFault where
  | unprintable (c : Char)
  | unknown (c : Char)
  | openQuote (triple : Bool) (line : Nat)
  | badNumber (base : String)
  | badDigit (digit : Char) (base : String)
  | leadingZeros
  | unmatched (closing : Char)
  | mismatched (closing opening : Char) (line : Option Nat)
  | tooManyBrackets
  | strayBackslash
  | endOfText
  | neverClosed (opening : Char)
  | unevenUnindent
  | mixedIndent
  | tooManyIndents
  deriving DecidableEq, Repr

/-- Whether a fault is reported by whoever comes upon it, or only to a reader that asks for the next
token. -/
def TokenFault.isLoud : TokenFault → Bool
  | .strayBackslash | .endOfText | .neverClosed _ | .unevenUnindent | .mixedIndent
  | .tooManyIndents => false
  | _ => true

def codePoint (c : Char) : String :=
  let width := if c.toNat < 0x10000 then 4 else if c.toNat < 0x100000 then 5 else 6
  "U+" ++ String.ofList ((Text.hexDigits width c.toNat).map Char.toUpper)

def marked (c : Char) : String := "'" ++ c.toString ++ "'"

def TokenFault.message : TokenFault → String
  | .unprintable c => "invalid non-printable character " ++ codePoint c
  | .unknown c => "invalid character " ++ marked c ++ " (" ++ codePoint c ++ ")"
  | .openQuote triple line =>
    "unterminated " ++ (if triple then "triple-quoted " else "")
      ++ "string literal (detected at line " ++ toString line ++ ")"
  | .badNumber base => "invalid " ++ base ++ " literal"
  | .badDigit digit base => "invalid digit " ++ marked digit ++ " in " ++ base ++ " literal"
  | .leadingZeros =>
    "leading zeros in decimal integer literals are not permitted; "
      ++ "use an 0o prefix for octal integers"
  | .unmatched closing => "unmatched " ++ marked closing
  | .mismatched closing opening line =>
    "closing parenthesis " ++ marked closing ++ " does not match opening parenthesis "
      ++ marked opening ++ (line.map fun n => " on line " ++ toString n).getD ""
  | .tooManyBrackets => "too many nested parentheses"
  | .strayBackslash => "unexpected character after line continuation character"
  | .endOfText => "unexpected EOF while parsing"
  | .neverClosed opening => marked opening ++ " was never closed"
  | .unevenUnindent => "unindent does not match any outer indentation level"
  | .mixedIndent => "inconsistent use of tabs and spaces in indentation"
  | .tooManyIndents => "too many levels of indentation"

/-! ### Expressions -/

/-- What is wrong with a sequence of tokens.  Kinds of expressions are given by their names. -/
inductive Mistake where
  | malformed
  | unexpectedIndent
  | unexpectedUnindent
  | missingComma
  | missingElse
  | missingCall (name : String)
  | singleEquals
  | assignsIn (kind : String)
  | assignsHere (kind : String)
  | assignsTo (kind : String)
  | assignsArgument
  | starredAlone
  | doubleStarredAlone
  | unpacksInComprehension
  | unpacksDictionary
  | bareComprehension
  | bareGenerator
  | iterableAfterUnpacking
  | positionalAfterUnpacking
  | positionalAfterKeyword
  | missingColon
  | missingValue
  | starredValue
  | missingDefault
  | requiredAfterDefault
  | bracketedParameters
  | slashFirst
  | slashTwice
  | slashAfterStar
  | slashBeforeStar
  | bareStar
  | starDefault
  | starTwice
  | doubleStarDefault
  | afterDoubleStar
  deriving DecidableEq, Repr

def Mistake.message : Mistake → String
  | .malformed => "invalid syntax"
  | .unexpectedIndent => "unexpected indent"
  | .unexpectedUnindent => "unexpected unindent"
  | .missingComma => "invalid syntax. Perhaps you forgot a comma?"
  | .missingElse => "expected 'else' after 'if' expression"
  | .missingCall name =>
    "Missing parentheses in call to '" ++ name ++ "'. Did you mean " ++ name ++ "(...)?"
  | .singleEquals => "invalid syntax. Maybe you meant '==' or ':=' instead of '='?"
  | .assignsIn kind => "cannot use assignment expressions with " ++ kind
  | .assignsHere kind =>
    "cannot assign to " ++ kind ++ " here. Maybe you meant '==' instead of '='?"
  | .assignsTo kind => "cannot assign to " ++ kind
  | .assignsArgument => "expression cannot contain assignment, perhaps you meant \"==\"?"
  | .starredAlone => "cannot use starred expression here"
  | .doubleStarredAlone => "cannot use double starred expression here"
  | .unpacksInComprehension => "iterable unpacking cannot be used in comprehension"
  | .unpacksDictionary => "dict unpacking cannot be used in dict comprehension"
  | .bareComprehension => "did you forget parentheses around the comprehension target?"
  | .bareGenerator => "Generator expression must be parenthesized"
  | .iterableAfterUnpacking => "iterable argument unpacking follows keyword argument unpacking"
  | .positionalAfterUnpacking => "positional argument follows keyword argument unpacking"
  | .positionalAfterKeyword => "positional argument follows keyword argument"
  | .missingColon => "':' expected after dictionary key"
  | .missingValue => "expression expected after dictionary key and ':'"
  | .starredValue => "cannot use a starred expression in a dictionary value"
  | .missingDefault => "expected default value expression"
  | .requiredAfterDefault => "non-default argument follows default argument"
  | .bracketedParameters => "Lambda expression parameters cannot be parenthesized"
  | .slashFirst => "at least one argument must precede /"
  | .slashTwice => "/ may appear only once"
  | .slashAfterStar => "/ must be ahead of *"
  | .slashBeforeStar => "expected comma between / and *"
  | .bareStar => "named arguments must follow bare *"
  | .starDefault => "var-positional argument cannot have default value"
  | .starTwice => "* argument may appear only once"
  | .doubleStarDefault => "var-keyword argument cannot have default value"
  | .afterDoubleStar => "arguments cannot follow var-keyword argument"

/-! ### Quoted and formatted texts -/

inductive EscapeFault where
  | truncated (form : String)
  | illegal
  | malformedName
  | unknownName
  deriving DecidableEq, Repr

def EscapeFault.message : EscapeFault → String
  | .truncated form => "truncated \\" ++ form ++ " escape"
  | .illegal => "illegal Unicode character"
  | .malformedName => "malformed \\N character escape"
  | .unknownName => "unknown Unicode character name"

/-- What is wrong with quoted texts.  An escape is given with the first and the last position of the part
that makes it wrong. -/
inductive QuoteFault where
  | escape (first last : Nat) (fault : EscapeFault)
  | byteEscape (position : Nat)
  | wideBytes
  | mixed
  deriving DecidableEq, Repr

def QuoteFault.message : QuoteFault → String
  | .escape first last fault =>
    "(unicode error) 'unicodeescape' codec can't decode bytes in position " ++ toString first ++ "-"
      ++ toString last ++ ": " ++ fault.message
  | .byteEscape position => "(value error) invalid \\x escape at position " ++ toString position
  | .wideBytes => "bytes can only contain ASCII literal characters"
  | .mixed => "cannot mix bytes and nonbytes literals"

inductive FieldFault where
  | singleBrace
  | missingBrace
  | backslash
  | comment
  | nested
  | tooManyBrackets
  | unmatched (bracket : Char)
  | mismatched (closing opening : Char)
  | openQuote
  | empty
  | missingBefore (mark : Char)
  | conversion
  deriving DecidableEq, Repr

def FieldFault.message : FieldFault → String
  | .singleBrace => "f-string: single '\x7d' is not allowed"
  | .missingBrace => "f-string: expecting '\x7d'"
  | .backslash => "f-string expression part cannot include a backslash"
  | .comment => "f-string expression part cannot include '#'"
  | .nested => "f-string: expressions nested too deeply"
  | .tooManyBrackets => "f-string: too many nested parenthesis"
  | .unmatched bracket => "f-string: unmatched " ++ marked bracket
  | .mismatched closing opening =>
    "f-string: closing parenthesis " ++ marked closing ++ " does not match opening parenthesis "
      ++ marked opening
  | .openQuote => "f-string: unterminated string"
  | .empty => "f-string: empty expression not allowed"
  | .missingBefore mark => "f-string: expression required before " ++ marked mark
  | .conversion => "f-string: invalid conversion character: expected 's', 'r', or 'a'"

/-! ### Worth -/

/-- Why an expression that is well-formed is no literal, or cannot be worked out. -/
inductive WorthFault where
  | null
  | tooNested
  | tooDeep
  | unplaced
  | unpacked
  | foreign
  | unhashable (kind : String)
  | tooLarge
  deriving DecidableEq, Repr

def WorthFault.message : WorthFault → String
  | .null => "source code string cannot contain null bytes"
  | .tooNested => ""
  | .tooDeep => "maximum recursion depth exceeded during ast construction"
  | .unplaced => "Negative size passed to PyUnicode_New"
  | .unpacked => "malformed node or string: None"
  | .foreign => "malformed node or string"
  | .unhashable kind => "unhashable type: '" ++ kind ++ "'"
  | .tooLarge => "int too large to convert to float"

/-! ### Causes -/

/-- What is wrong with a literal.  `field` is a cause in the expression of a field of a formatted text. -/
inductive Cause where
  | token (fault : TokenFault)
  | form (mistake : Mistake)
  | digits (count : Nat)
  | quote (fault : QuoteFault)
  | formatted (fault : FieldFault)
  | field (cause : Cause)
  | worth (fault : WorthFault)
  deriving DecidableEq, Repr

def Cause.message : Cause → String
  | .token fault => fault.message
  | .form mistake => mistake.message
  | .digits count =>
    "Exceeds the limit (4300 digits) for integer string conversion: value has " ++ toString count
      ++ " digits; use sys.set_int_max_str_digits() to increase the limit - Consider hexadecimal for "
      ++ "huge integer literals to avoid decimal conversion limits."
  | .quote fault => fault.message
  | .formatted fault => fault.message
  | .field cause => "f-string: " ++ cause.message
  | .worth fault => fault.message

/-- A matter of form, which is reported with the literal. -/
def Cause.isForm : Cause → Bool
  | .worth _ => false
  | _ => true

/-- The cause as it is reported outside of a field in whose expression it was found.  A number with too many
digits is reported without its column, and in a field it has no place without one. -/
def Cause.ofField : Cause → Cause
  | .token fault => if fault.isLoud then .token fault else .field (.token fault)
  | .field cause => .field cause
  | .digits _ => .worth .unplaced
  | .worth fault => .worth fault
  | cause => .field cause

end TreeLint.Literal
