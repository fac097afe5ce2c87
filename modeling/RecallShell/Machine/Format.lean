import RecallShell.Machine.Quantity

/-!
# Formats

A format is a text in which directives stand for arguments. It is used again and again until no
argument is left; an argument that is missing counts as nothing or zero. Programs differ in the
directives and escapes that they know and in how exact their numbers with a point are.
-/

namespace RecallShell.Machine

open Text

/-- What is wrong with an argument or a directive. -/
inductive FormatFault where
  /-- An argument is no number. -/
  | notNumeric (arg : String)
  /-- An argument begins with a number but does not end with it. -/
  | notWholly (arg : String)
  /-- An argument is a number beyond all that can be written. -/
  | outOfRange (arg : String)
  /-- An argument goes on behind the character that it stands for. -/
  | ignored (rest : String)
  /-- A directive is unknown. -/
  | badDirective (directive : String)
  /-- A directive is not complete. -/
  | cutShort (directive : String)
  deriving DecidableEq, Repr

/-- Whether a fault ends the output. -/
def FormatFault.isFatal : FormatFault → Bool
  | .badDirective _ | .cutShort _ => true
  | _ => false

/-- Whether a fault is no more than a warning. -/
def FormatFault.isWarning : FormatFault → Bool
  | .ignored _ => true
  | _ => false

/-- How a program understands formats. -/
structure FormatStyle where
  /-- The escapes in the format itself. -/
  inFormat : EscapeRule
  /-- The escapes in arguments that are to have them. -/
  inArgument : EscapeRule
  /-- The numbers with a point. -/
  numbers : BinaryFormat
  /-- Whether flags must suit the directive, and letters for sizes are passed over. -/
  isStrict : Bool
  /-- Whether a character that an argument names may take more than one octet. -/
  wide : Bool
  /-- What is made of an argument for a directive that quotes it, if there is one. -/
  quoting : Option (String → String)

/-- A directive taken apart. -/
structure Directive where
  /-- The characters between the percent sign and the width. -/
  flags : List Char
  /-- The least width. -/
  width : Nat
  /-- The precision, if one is given. -/
  precision : Option Nat
  deriving Inhabited

namespace Directive

/-- Brings a text to a width. -/
def pad (d : Directive) (text : String) : String :=
  let blanks := String.ofList (List.replicate (d.width - text.length) ' ')
  if d.flags.contains '-' then text ++ blanks else blanks ++ text

/-- A text, cut to a precision and brought to a width. -/
def text (d : Directive) (text : String) : String :=
  d.pad (match d.precision with
    | some n => String.ofList (text.toList.take n)
    | none => text)

/-- Brings digits behind a sign to a width, with zeros if they are asked for. -/
def fill (d : Directive) (zeros : Bool) (sign digits : String) : String :=
  if zeros && d.flags.contains '0' && !d.flags.contains '-' then
    sign ++ String.ofList (List.replicate (d.width - sign.length - digits.length) '0') ++ digits
  else d.pad (sign ++ digits)

/-- The sign in front of a number. -/
def signOf (d : Directive) (negative : Bool) : String :=
  if negative then "-" else if d.flags.contains '+' then "+" else if d.flags.contains ' ' then " "
  else ""

/-- Digits brought to a precision. -/
def precise (d : Directive) (digits : String) : String :=
  if d.precision == some 0 && digits == "0" then ""
  else String.ofList (List.replicate (d.precision.getD 1 - digits.length) '0') ++ digits

/-- A whole number in base ten. -/
def integer (d : Directive) (n : Int) : String :=
  d.fill d.precision.isNone (d.signOf (n < 0)) (d.precise (toString n.natAbs))

/-- The number of different words of 64 bits. -/
def wordCount : Nat := 2 ^ 64

/-- A word in some base; a directive can ask for a mark of the base. -/
def word (d : Directive) (conversion : Char) (n : Nat) : String :=
  let digits (base : Nat) : String := d.precise (String.ofList (Nat.toDigits base n))
  let marked := d.flags.contains '#'
  let zeros := d.precision.isNone
  match conversion with
  | 'o' =>
    let text := digits 8
    d.fill zeros "" (if marked && !text.startsWith "0" then "0" ++ text else text)
  | 'x' => d.fill zeros (if marked && n != 0 then "0x" else "") (digits 16)
  | 'X' => d.fill zeros (if marked && n != 0 then "0X" else "") (digits 16).toUpper
  | _ => d.fill zeros "" (digits 10)

/-- A number with a point, as a letter asks for it. -/
def real (d : Directive) (numbers : BinaryFormat) (conversion : Char) (q : Quantity) : String :=
  let upper := conversion.isUpper
  let sign := d.signOf q.isNegative
  let cased (text : String) : String := if upper then text.toUpper else text
  let withPoint := d.flags.contains '#'
  let places := d.precision.getD 6
  match q with
  | .infinite _ => d.pad (sign ++ cased "inf")
  | .nothing _ => d.pad (sign ++ cased "nan")
  | .finite _ num den =>
    match conversion.toLower with
    | 'f' => d.fill true sign (Quantity.fixed places withPoint num den)
    | 'e' => d.fill true sign (cased (Quantity.scientific places withPoint num den))
    | 'a' =>
      let shown := cased (Quantity.hexadecimal numbers d.precision withPoint num den)
      d.fill true (sign ++ String.ofList (shown.toList.take 2)) (String.ofList (shown.toList.drop 2))
    | _ => d.fill true sign (cased (Quantity.general places withPoint num den))

end Directive

/-- What a format comes to. -/
structure Formatted where
  /-- The text. -/
  out : String
  /-- What was wrong, in order. -/
  faults : List FormatFault
  /-- The arguments that are left. -/
  args : List String
  /-- Whether the output stops here. -/
  stops : Bool
  deriving Inhabited

namespace Format

/-- The whole number at the start of an argument, and what follows it. A leading zero means base
eight or sixteen. -/
def leadingNumber (arg : String) : Option (Int × List Char) :=
  let cs := arg.toList.dropWhile Quantity.isSpace
  let (negative, cs) := match cs with
    | '-' :: cs => (true, cs)
    | '+' :: cs => (false, cs)
    | cs => (false, cs)
  let read (base : Nat) (isDigit : Char → Bool) (cs : List Char) : Option (Int × List Char) :=
    let digits := cs.takeWhile isDigit
    let n : Int := digitsValue base digits
    if digits.isEmpty then none else some (if negative then -n else n, cs.drop digits.length)
  match cs with
  | '0' :: 'x' :: c :: rest | '0' :: 'X' :: c :: rest =>
    if isHex c then read 16 isHex (c :: rest) else read 8 isOctal cs
  | '0' :: _ => read 8 isOctal cs
  | cs => read 10 Char.isDigit cs

/-- The number of the character that an argument names behind a quote, if it does, and what is
ignored behind that. -/
def named? (style : FormatStyle) (arg : String) : Option (Int × List FormatFault) :=
  match arg.toList with
  | quote :: rest =>
    if quote != '\x27' && quote != '"' then none
    else
      match rest with
      | [] => if style.isStrict then none else some (0, [])
      | c :: behind =>
        let first := (decodeChars (ofOctets (String.ofList rest))).headD c
        let isWide := style.wide && 127 < c.toNat
        let value := if isWide then first.toNat else c.toNat
        let behind := if isWide then rest.drop (encode first.toString).length else behind
        some (value, if behind.isEmpty || !style.isStrict then []
          else [.ignored (String.ofList behind)])
  | [] => none

/-- What is wrong with a number that some characters follow. -/
def faultsBehind (arg : String) (rest : List Char) : List FormatFault :=
  if rest.isEmpty then [] else [.notWholly arg]

/-- The whole number that an argument stands for within bounds, and what is wrong with it. -/
def number (style : FormatStyle) (least greatest : Int) (arg : String) : Int × List FormatFault :=
  if arg.isEmpty then (0, [])
  else
    match named? style arg with
    | some found => found
    | none =>
      match leadingNumber arg with
      | none => (0, [.notNumeric arg])
      | some (n, rest) =>
        let far := if n < least || greatest < n then [FormatFault.outOfRange arg] else []
        let faults := if rest.isEmpty || (style.isStrict && !far.isEmpty) then far
          else faultsBehind arg rest
        (max least (min greatest n), faults)

/-- The word that an argument stands for, and what is wrong with it. -/
def wordOf (style : FormatStyle) (arg : String) : Nat × List FormatFault :=
  let greatest : Int := Directive.wordCount - 1
  let (n, faults) := number style (-greatest) greatest arg
  let far := faults.any fun fault => match fault with | .outOfRange _ => true | _ => false
  (if far then greatest.toNat else (n % Directive.wordCount).toNat, faults)

/-- The number with a point that an argument stands for, and what is wrong with it. -/
def quantity (style : FormatStyle) (arg : String) : Quantity × List FormatFault :=
  if arg.isEmpty then (.finite false 0 1, [])
  else
    match named? style arg with
    | some (n, faults) => (.finite false n.toNat 1, faults)
    | none =>
      match Quantity.read? arg.toList with
      | none => (.finite false 0 1, [.notNumeric arg])
      | some (q, rest) =>
        let found := q.rounded style.numbers
        let far := match q, found with
          | .finite .., .infinite _ => [FormatFault.outOfRange arg]
          | _, _ => []
        (found, if rest.isEmpty then far else faultsBehind arg rest)

/-- What a directive makes of an argument: the text, what is wrong, and whether the output stops.
There may be no such directive. -/
def convert (style : FormatStyle) (d : Directive) (conversion : Char) (arg : String) :
    Option (String × List FormatFault × Bool) :=
  match conversion with
  | 's' => some (d.text arg, [], false)
  | 'b' =>
    let (text, stops) := style.inArgument.unescape arg
    some (d.text text, [], stops)
  | 'q' => style.quoting.map fun quote => (d.text (quote arg), [], false)
  | 'c' =>
    let first := if style.isStrict then arg.toList.take 1 else [arg.toList.headD '\x00']
    some (d.pad (String.ofList first), [], false)
  | 'd' | 'i' =>
    let (n, faults) := number style (-2 ^ 63) (2 ^ 63 - 1) arg
    some (d.integer n, faults, false)
  | 'u' | 'o' | 'x' | 'X' =>
    let (n, faults) := wordOf style arg
    some (d.word conversion n, faults, false)
  | 'a' | 'A' | 'e' | 'E' | 'f' | 'F' | 'g' | 'G' =>
    let (q, faults) := quantity style arg
    some (d.real style.numbers conversion q, faults, false)
  | _ => none

/-- Whether flags and a precision suit a conversion. -/
def suits (d : Directive) (plain : Bool) (conversion : Char) : Bool :=
  let isIn (letters : String) : Bool := letters.toList.contains conversion
  (!d.flags.contains '\x27' || !isIn "aAceEosxX") && (!d.flags.contains '#' || !isIn "cdisu")
    && (!d.flags.contains '0' || !isIn "cs") && (d.precision.isNone || conversion != 'c')
    && (plain || !isIn "bq")

/-- A number given by digits or by an argument, and what follows it. -/
def count (style : FormatStyle) (cs : List Char) (args : List String) :
    Option Int × List FormatFault × List Char × List String :=
  match cs with
  | '*' :: cs =>
    let (n, faults) := number style (-2 ^ 63) (2 ^ 63 - 1) (args.headD "")
    (some n, faults, cs, args.tail)
  | cs =>
    let digits := cs.takeWhile Char.isDigit
    (if digits.isEmpty then none else some (digitsValue 10 digits : Nat), [], cs.drop digits.length,
      args)

/-- A directive that has been read: its parts, what is wrong with numbers in it, what follows it and
the arguments left. -/
structure Found where
  /-- The directive. -/
  directive : Directive
  /-- What is wrong. -/
  faults : List FormatFault
  /-- What follows, the letter of the conversion first. -/
  rest : List Char
  /-- The arguments left. -/
  args : List String

/-- Reads a directive behind its percent sign. -/
def directive (style : FormatStyle) (cs : List Char) (args : List String) : Found :=
  let known := if style.isStrict then "-+ #0'" else "-+ #0"
  let flags := cs.takeWhile fun c => known.toList.contains c
  let (width, faults, cs, args) := count style (cs.drop flags.length) args
  let flags := if width.any (· < 0) then '-' :: flags else flags
  let width := (width.getD 0).natAbs
  let (precision, faults, cs, args) := match cs with
    | '.' :: cs =>
      let (precision, more, cs, args) := count style cs args
      let precision := match precision with
        | some n => if n < 0 then none else some n.toNat
        | none => some 0
      (precision, faults ++ more, cs, args)
    | cs => (none, faults, cs, args)
  let cs := if style.isStrict then cs.dropWhile fun c => "lLhjtz".toList.contains c else cs
  ⟨⟨flags, width, precision⟩, faults, cs, args⟩

/-- One pass of a format over some arguments, behind the text written so far. -/
def once (style : FormatStyle) : Nat → List Char → List String → Formatted
  | 0, _, args | _, [], args => ⟨"", [], args, false⟩
  | fuel + 1, '%' :: '%' :: cs, args =>
    let r := once style fuel cs args
    { r with out := "%" ++ r.out }
  | fuel + 1, '%' :: cs, args =>
    let found := directive style cs args
    match found.rest with
    | [] =>
      let shown := String.ofList ('%' :: cs)
      ⟨"", found.faults ++ [if style.isStrict then .badDirective shown else .cutShort shown],
        found.args, true⟩
    | conversion :: rest =>
      let plain := rest.length + 1 == cs.length
      let made := if style.isStrict && !suits found.directive plain conversion then none
        else convert style found.directive conversion (found.args.headD "")
      match made with
      | none =>
        let shown := '%' :: (cs.take (cs.length - rest.length))
        ⟨"", found.faults ++ [.badDirective (String.ofList shown)], found.args, true⟩
      | some (text, faults, true) => ⟨text, found.faults ++ faults, found.args.tail, true⟩
      | some (text, faults, false) =>
        let r := once style fuel rest found.args.tail
        { r with out := text ++ r.out, faults := found.faults ++ faults ++ r.faults }
  | fuel + 1, '\\' :: cs, args =>
    match style.inFormat.escape cs with
    | .stop => ⟨"", [], args, true⟩
    | .chars shown rest =>
      let r := once style fuel rest args
      { r with out := String.ofList shown ++ r.out }
  | fuel + 1, c :: cs, args =>
    let r := once style fuel cs args
    { r with out := c.toString ++ r.out }

/-- A format used again and again until its arguments are used up, or until it uses none. -/
def again (style : FormatStyle) (format : String) : Nat → List String → Formatted
  | 0, args => ⟨"", [], args, false⟩
  | fuel + 1, args =>
    let r := once style (format.length + 1) format.toList args
    if r.stops || r.args.isEmpty || r.args.length == args.length then r
    else
      let next := again style format fuel r.args
      { next with out := r.out ++ next.out, faults := r.faults ++ next.faults }

/-- A format applied to arguments. -/
def apply (style : FormatStyle) (format : String) (args : List String) : Formatted :=
  again style format (args.length + 1) args

end Format

/-- The style of the program that writes its arguments. -/
def utilityFormats : FormatStyle :=
  ⟨formatEscapes, argumentEscapes, .extended, true, true, some Quoting.ifNeeded⟩

/-- The style of a shell that writes arguments. -/
def shellFormats : FormatStyle :=
  ⟨shellFormatEscapes, shellEscapes, .double, false, false, none⟩

end RecallShell.Machine
