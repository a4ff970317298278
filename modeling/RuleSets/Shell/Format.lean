import RuleSets.Data.Double.Decimal
import RuleSets.Shell.Arithmetic

/-!
# Printing by a format

The rules by which a format's directives take up arguments, and the escapes of formats and of echoed
text.
-/

namespace RuleSets.Shell

/-! ### Escapes -/

/-- The byte that up to `most` octal digits stand for, and what follows them. -/
def octal (most : Nat) (s : Text) : Char × Text :=
  let ds := (s.take most).takeWhile (Text.isDigitOf 8)
  (Char.ofNat (Text.valueOf 8 ds % 256), s.drop ds.length)

/-- The character that a letter behind a backslash stands for. -/
def escaped? : Char → Option Char
  | 'a' => some '\x07'
  | 'b' => some '\x08'
  | 'e' => some '\x1b'
  | 'f' => some '\x0c'
  | 'n' => some '\n'
  | 'r' => some '\r'
  | 't' => some '\t'
  | 'v' => some '\x0b'
  | '\\' => some '\\'
  | _ => none

/-- What escapes stand for in a text: `octalEscape?` reads an octal one.  The second result says
whether an escape has ended the output. -/
def unescape (octalEscape? : Text → Option (Char × Text)) : Nat → Text → Text × Bool
  | 0, s => (s, false)
  | _, [] => ([], false)
  | n + 1, '\\' :: s =>
    match octalEscape? s, s with
    | some (c, s), _ => let (t, ended) := unescape octalEscape? n s; (c :: t, ended)
    | none, 'c' :: _ => ([], true)
    | none, c :: s =>
      let (t, ended) := unescape octalEscape? n s
      match escaped? c with
      | some d => (d :: t, ended)
      | none => ('\\' :: c :: t, ended)
    | none, [] => (['\\'], false)
  | n + 1, c :: s => let (t, ended) := unescape octalEscape? n s; (c :: t, ended)

/-- Echoed text: octal escapes begin with a zero, and up to three digits follow it. -/
def echoed (s : Text) : Text × Bool :=
  if s.contains '\\' then
    unescape (fun s =>
      match s with
      | '0' :: s => some (octal 3 s)
      | c :: _ => if Text.isDigitOf 8 c then some (octal 3 s) else none
      | [] => none) (s.length + 1) s
  else (s, false)

/-! ### Directives -/

/-- A directive of a format. -/
structure Directive where
  flags : Text
  width : Nat
  precision? : Option Nat
  conversion : Char

namespace Directive

/-- Whether a directive has a flag. -/
def has (d : Directive) (flag : Char) : Bool := d.flags.contains flag

/-- Fill a text up to the width. -/
def pad (d : Directive) (s : Text) : Text :=
  let fill := d.width - s.length
  if d.has '-' then s ++ List.replicate fill ' ' else List.replicate fill ' ' ++ s

/-- Fill a number up to the width, with zeros behind its sign if that is asked for. -/
def padNumber (d : Directive) (zeros : Bool) (sign digits : Text) : Text :=
  if zeros && d.has '0' && !d.has '-' then
    sign ++ List.replicate (d.width - (sign.length + digits.length)) '0' ++ digits
  else d.pad (sign ++ digits)

/-- The sign in front of a number. -/
def sign (d : Directive) (negative : Bool) : Text :=
  if negative then ['-'] else if d.has '+' then ['+'] else if d.has ' ' then [' '] else []

/-- A text as a directive writes it. -/
def text (d : Directive) (s : Text) : Text :=
  d.pad (match d.precision? with | some p => s.take p | none => s)

/-- An integer as a directive writes it. -/
def integer (d : Directive) (n : Int) : Text :=
  let isSigned := d.conversion == 'd' || d.conversion == 'i'
  let base := match d.conversion with | 'o' => 8 | 'x' | 'X' => 16 | _ => 10
  let k := if isSigned then n.natAbs else (n % Nat.pow 2 64).toNat
  let ds := if k = 0 && d.precision? == some 0 then [] else Text.numeral base k
  let ds := List.replicate ((d.precision?.getD 1) - ds.length) '0' ++ ds
  let ds := if base == 8 && d.has '#' && ds.head? != some '0' then '0' :: ds else ds
  let sign : Text :=
    if isSigned then d.sign (n < 0)
    else if base == 16 && d.has '#' && k != 0 then ['0', 'x']
    else []
  let t := d.padNumber d.precision?.isNone sign ds
  if d.conversion == 'X' then t.map Char.toUpper else t

/-- Digits without the zeros behind the period. -/
def withoutZeros (s : Text) : Text :=
  if s.contains '.' then
    match s.reverse.dropWhile (· == '0') with
    | '.' :: r => r.reverse
    | r => r.reverse
  else s

/-- An exponent behind its letter. -/
def exponentText (e : Int) : Text :=
  let ds := Text.decimal e.natAbs
  'e' :: (if e < 0 then '-' else '+') :: (if ds.length < 2 then '0' :: ds else ds)

/-- A finite number as a directive writes it. -/
def float (d : Directive) (negative : Bool) (v : Double.Fraction) : Text :=
  let p := d.precision?.getD 6
  let dotted (whole fraction : Text) : Text :=
    if fraction.isEmpty then (if d.has '#' then whole ++ ['.'] else whole)
    else whole ++ '.' :: fraction
  let scientific (p : Nat) (strip : Bool) : Text :=
    let (ds, e) := v.scientific p
    let t := dotted (ds.take 1) (ds.drop 1)
    (if strip then withoutZeros t else t) ++ exponentText e
  let digits :=
    match d.conversion.toLower with
    | 'f' => if p = 0 && d.has '#' then v.fixed 0 ++ ['.'] else v.fixed p
    | 'e' => scientific p false
    | _ =>
      let p := if p = 0 then 1 else p
      let (_, e) := v.scientific (p - 1)
      let strip := !d.has '#'
      if -4 ≤ e ∧ e < p then
        let t := v.fixed ((p : Int) - 1 - e).toNat
        if strip then withoutZeros t else if t.contains '.' then t else t ++ ['.']
      else scientific (p - 1) strip
  let t := d.padNumber true (d.sign negative) digits
  if d.conversion.isUpper then t.map Char.toUpper else t

end Directive

/-- Why printing ends before the end of the format. -/
inductive FormatStop where
  /-- An escape has ended the output. -/
  | ended
  | fault (text : Text)

/-- What has been printed, the latest first. -/
structure Printing where
  arguments : List Text
  output : List Text
  /-- What is wrong with arguments. -/
  complaints : List Text

/-- A piece of printing. -/
abbrev Print := ExceptT FormatStop (StateM Printing)

namespace Print

/-- Print a text. -/
def emit (t : Text) : Print Unit := modify fun p => { p with output := t :: p.output }

/-- Complain about an argument. -/
def complain (t : Text) : Print Unit := modify fun p => { p with complaints := t :: p.complaints }

/-- The next argument, if there is one. -/
def argument? : Print (Option Text) := do
  let p ← get
  set { p with arguments := p.arguments.drop 1 }
  return p.arguments.head?

/-- Complain if an argument does not end with its number. -/
def check (word rest : Text) (isOutOfRange : Bool) : Print Unit := do
  if rest.isEmpty then
    if isOutOfRange then complain (word ++ ": Numerical result out of range".toList)
  else if rest.length == word.length then complain (word ++ ": expected numeric value".toList)
  else complain (word ++ ": not completely converted".toList)

/-- The sign in front of a number, behind blanks, and what follows it. -/
def signOf (word : Text) : Bool × Text :=
  match word.dropWhile Text.isSpace with
  | '-' :: s => (true, s)
  | '+' :: s => (false, s)
  | s => (false, s)

/-- The next argument as an integer between bounds. -/
def integer (least most : Int) : Print Int := do
  match ← argument? with
  | none => return 0
  | some ('\'' :: s) | some ('"' :: s) => return s.head?.elim 0 fun c => c.toNat
  | some word =>
    let (negative, s) := signOf word
    if s.head?.any Char.isDigit then
      let (n, rest) := Arithmetic.leadingNumber s
      let value : Int := if negative then -(n : Int) else n
      let isOutOfRange := most < n || value < least
      check word rest isOutOfRange
      return if isOutOfRange then (if value < 0 && least < 0 then least else most) else value
    else
      check word word false
      return 0

/-- The next argument as a number with its sign: an infinity has no value. -/
def number : Print (Bool × Option Double.Fraction × Text) := do
  match ← argument? with
  | none => return (false, some ⟨0, 1⟩, [])
  | some ('\'' :: s) | some ('"' :: s) =>
    return (false, some ⟨s.head?.elim 0 fun c => c.toNat, 1⟩, [])
  | some word =>
    let (negative, s) := signOf word
    let named? (name : String) : Option Text :=
      if Text.asciiLower (s.take name.length) == name.toList then some (s.drop name.length) else none
    match named? "infinity", named? "inf", named? "nan", Double.readNumber? s with
    | some rest, _, _, _ | none, some rest, _, _ =>
      check word rest false
      return (negative, none, "inf".toList)
    | _, _, some rest, _ =>
      check word rest false
      return (negative, none, "nan".toList)
    | _, _, _, some (v, rest) =>
      let v? := v.toDouble?
      check word rest v?.isNone
      return (negative, v?, "inf".toList)
    | _, _, _, none =>
      check word word false
      return (false, some ⟨0, 1⟩, [])

/-- The bounds of signed and of unsigned integers. -/
def signed : Print Int := integer Arithmetic.smallest Arithmetic.largest
def unsigned : Print Int := integer (-(Nat.pow 2 64) + 1) (Nat.pow 2 64 - 1)

/-- A width or precision: digits, or a star for an argument; and what follows it. -/
def size (s : Text) : Print (Int × Text) := do
  match s with
  | '*' :: s => return (← signed, s)
  | s =>
    let ds := s.takeWhile Char.isDigit
    return (Text.valueOf 10 ds, s.drop ds.length)

/-- A directive behind its percent sign, its spelling, and what follows it. -/
def directive (s : Text) : Print (Directive × Text × Text) := do
  let flags := s.takeWhile "-+ 0#".toList.contains
  let (width, rest) ← size (s.drop flags.length)
  let flags := if width < 0 then '-' :: flags else flags
  let (precision?, rest) ←
    match rest with
    | '.' :: rest => do
      let (p, rest) ← size rest
      pure (if p < 0 then none else some p.toNat, rest)
    | rest => pure (none, rest)
  match rest with
  | [] => throw (.fault "missing format character".toList)
  | c :: rest =>
    return (⟨flags, width.natAbs, precision?, c⟩, '%' :: s.take (s.length - rest.length), rest)

/-- Print an argument as a directive asks for. -/
def write (d : Directive) (spelling : Text) : Print Unit := do
  match d.conversion with
  | 'd' | 'i' => emit (d.integer (← signed))
  | 'o' | 'u' | 'x' | 'X' => emit (d.integer (← unsigned))
  | 's' => emit (d.text ((← argument?).getD []))
  | 'c' => emit (d.pad [((← argument?).getD []).headD '\x00'])
  | 'b' =>
    let (t, ended) := echoed ((← argument?).getD [])
    emit (d.text t)
    if ended then throw .ended
  | c =>
    if "eEfFgG".toList.contains c then
      let (negative, v?, name) ← number
      match v? with
      | some v => emit (d.float negative v)
      | none =>
        let name := if c.isUpper then name.map Char.toUpper else name
        emit (d.pad (d.sign negative ++ name))
    else throw (.fault (spelling ++ ": invalid directive".toList))

/-- Go through a format once. -/
def once : Nat → Text → Print Unit
  | 0, _ => return
  | n + 1, s => do
    let t := s.takeWhile fun c => c != '%' && c != '\\'
    if !t.isEmpty then emit t
    match s.drop t.length with
    | [] => return
    | '%' :: '%' :: s =>
      emit ['%']
      once n s
    | '%' :: s =>
      let (d, spelling, s) ← directive s
      write d spelling
      once n s
    | _ :: s =>
      match s with
      | [] => emit ['\\']
      | c :: rest =>
        if Text.isDigitOf 8 c then
          let (c, rest) := octal 3 s
          emit [c]
          once n rest
        else
          match escaped? c with
          | some d =>
            emit [d]
            once n rest
          | none =>
            emit ['\\']
            once n s

/-- Go through a format again and again until it takes up no more arguments. -/
def all (format : Text) : Nat → Print Unit
  | 0 => return
  | n + 1 => do
    let before := (← get).arguments.length
    once (format.length + 1) format
    let after := (← get).arguments.length
    if 0 < after && after < before then all format n

end Print

/-- What a format prints for arguments: the output, the complaints about arguments, and what is
wrong with the format. -/
def format (format : Text) (arguments : List Text) : Text × List Text × Option Text :=
  let (r, p) := (Print.all format (arguments.length + 1)).run ⟨arguments, [], []⟩
  let fault? := match r with | .error (.fault t) => some t | _ => none
  (p.output.reverse.flatten, p.complaints.reverse, fault?)

end RuleSets.Shell
