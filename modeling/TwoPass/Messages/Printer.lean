import TwoPass.Fault
import TwoPass.Locale.Matching
import TwoPass.Locale.Preference
import TwoPass.Messages.Rendering

/-!
# Printing messages

A printer fills the places of a format with arguments, in a language and with the numbers of
a region.  Texts are inserted as they are.  What does not fit is shown with a complaint.  The
wording of each fault is given here once, as a format and its arguments.
-/

namespace TwoPass

/-- A language with its way of writing numbers. -/
structure Printer where
  language : Language
  numbers : NumberStyle
  deriving DecidableEq, Repr

namespace Printer

/-- The locale of the messages themselves. -/
def defaultLocale : Bytes := Bytes.ofString "en-US"

/-- The printer used where no preferred locale has messages. -/
def fallback : Printer := ⟨.english, Locale.numberStyle .english (some "us") none none⟩

/-- The printer for a weighted list of locales, if there are messages for one of them. -/
def ofLocale? (preference : Bytes) : Option Printer := do
  let (language, tag) ← Locale.best? (← Locale.preference? preference)
  return ⟨language, tag.numberStyle language (Locale.taggedRegion language)⟩

/-- The printer of the first locale in order of preference that has one. -/
def ofLocales (preferences : List Bytes) : Printer :=
  ((preferences ++ [defaultLocale]).findSome? ofLocale?).getD fallback

/-- Where a printer is in a message: what it has used of the arguments, and how it filled up
    the last number. -/
structure State where
  usage : Usage
  padding : Option Padding

/-- A complaint about a letter. -/
def complaint (verb : Nat) (about : Bytes) : Bytes :=
  Bytes.ofString "%!" ++ Bytes.ofCode verb ++ ['('.toUInt8] ++ about ++ [')'.toUInt8]

/-- An argument at its place. -/
def place (p : Printer) (padding : Option Padding) (s : Spec) (verb : Nat) (a : Argument) : Bytes :=
  match a.render? p.language p.numbers padding s verb with
  | some shown => shown
  | none => complaint verb (a.renderTyped p.language p.numbers padding s)

/-- How a number at a place is filled up.  A letter that does not fit leads to the usual way
    of showing it. -/
def paddingAt (before : Option Padding) (s : Spec) (verb : Nat) (a : Argument) : Option Padding :=
  let fits := verb = 'T'.toNat || "vdboxXcqU".toList.any fun c => c.toNat = verb
  let isOutside := match a with
    | .number n => verb = 'q'.toNat && !(0 ≤ n && n ≤ 0x10FFFF)
    | .text _ => false
  let verb := if fits && !isOutside then verb else Slot.usual
  if a.isSetApart s verb then NumberStyle.padding before s else before

/-- What a slot shows, and the padding behind it. -/
def slot (p : Printer) (padding : Option Padding) : Slot → Bytes × Option Padding
  | .percent => (['%'.toUInt8], padding)
  | .incomplete => (Bytes.ofString "%!(NOVERB)", padding)
  | .badIndex verb => (complaint verb (Bytes.ofString "BADINDEX"), padding)
  | .missing verb => (complaint verb (Bytes.ofString "MISSING"), padding)
  | .argument reason spec verb a =>
    let padding := paddingAt padding spec verb a
    (Bytes.ofString reason ++ p.place padding spec verb a, padding)

/-- Arguments that no place was left for.  They are shown only if some argument was used, and
    all in order. -/
def leftOver (p : Printer) (usage : Usage) (args : List Argument) : Bytes :=
  let rest := args.drop usage.next
  if usage.reordered || usage.next = 0 || rest.isEmpty then []
  else
    Bytes.ofString "%!(EXTRA "
      ++ Bytes.join (Bytes.ofString ", ")
        (rest.map fun a => a.renderTyped p.language p.numbers none .plain)
      ++ Bytes.ofString ")"

/-- Fills the places of a format from left to right.  The fuel is the length of the format. -/
def fill (p : Printer) (args : List Argument) : Nat → State → Bytes → Bytes
  | 0, state, _ => p.leftOver state.usage args
  | _, state, [] => p.leftOver state.usage args
  | fuel + 1, state, b :: rest =>
    if b != '%'.toUInt8 then b :: p.fill args fuel state rest
    else
      let (slot, usage, rest) := Slot.read args state.usage rest
      let (shown, padding) := p.slot state.padding slot
      shown ++ p.fill args fuel ⟨usage, padding⟩ rest

/-- The message of a key in the printer's language. -/
def message (p : Printer) (key : String) (args : List Argument) : Bytes :=
  let format := Bytes.ofString (Catalogue.format p.language key)
  p.fill args format.length ⟨.start, none⟩ format

end Printer

/-- What is wrong with a register, as a key. -/
def Misuse.key : Misuse → String
  | noEncoding => "has no operand encoding"
  | mustBeNone => "must be none"
  | mustNotBeNone => "must not be none"

/-- The wording of a fault. -/
def Fault.message (p : Printer) : Fault → Bytes
  | immediateRange => p.message "immediate out of range" []
  | immediateTooLarge => p.message "immediate too large" []
  | operandShape => p.message "operand shape invalid" []
  | operandExtra => p.message "excessive operands" []
  | opcodeMissing => p.message "opcode missing" []
  | registerCode => p.message "register code invalid" []
  | registerOperand => p.message "register operand invalid" []
  | directiveSyntax => p.message "directive syntax" []
  | sectionOrder => p.message ".data after .code" []
  | configInvalid => p.message "config invalid" []
  | opcodeUnknown word => p.message "opcode '%v' unknown" [.text word]
  | registerUnknown word => p.message "register '%v' unknown" [.text word]
  | notNumber word => p.message "'%v' is not a number" [.text word]
  | registerUse register misuse =>
    p.message "register %v %v"
      [.text (Bytes.ofString register.name), .text (p.message misuse.key [])]
  | registerPair a b =>
    p.message "registers %v and %v are of mixed width"
      [.text (Bytes.ofString a.name), .text (Bytes.ofString b.name)]
  | directiveUnknown word => p.message "directive '%v' unknown" [.text word]
  | labelInvalid name => p.message "label '%v' invalid" [.text name]
  | labelUnknown name => p.message "label %v missing" [.text name]
  | configValue name => p.message "config '%v' invalid" [.text name]
  | illegal instruction cause =>
    p.message "%v: %v"
      [.text (Bytes.ofString instruction.opcode.name), .text (cause.message p)]
  | atLine number line cause =>
    p.message "line %d '%v' %v" [.number number, .text line, .text (cause.message p)]

end TwoPass
