import Dataspace.Settings.Basic

/-!
# Command lines

A command line names the fixture, perhaps a file of settings, and settings of
its own. Arguments are grouped into occurrences of options. An option that takes
values is open until the next option begins: a single value closes it, a list takes
every word that follows. A value attached with `=`, or to the letter of an
option, is the only one of its occurrence.

Occurrences are checked in order, and the first fault is the one reported; that the
fixture is named is checked last.
-/

namespace Dataspace

-- ---------------------------------------------------------------------------
-- Options
-- ---------------------------------------------------------------------------

inductive Opt
  | file | config
  | submodel | submodelUpload | aas | aasUpload | edc | edcUpload | dataplane
  | apiKey | esr | ess | essUrl | bpn | policy | bpns | aas3 | allowedBpns
  | help | version
  deriving DecidableEq, Repr

/-- Switches take no value, and lists one or more each time they occur. -/
inductive Arity
  | switch | single | list
  deriving DecidableEq, Repr

namespace Opt

def all : List Opt :=
  [.file, .config, .submodel, .submodelUpload, .aas, .aasUpload, .edc, .edcUpload, .dataplane,
    .apiKey, .esr, .ess, .essUrl, .bpn, .policy, .bpns, .aas3, .allowedBpns, .help, .version]

theorem mem_all (option : Opt) : option ∈ all := by
  cases option <;> simp [all]

def longNames : Opt → List String
  | .file => ["file"]
  | .config => ["config"]
  | .submodel => ["submodel"]
  | .submodelUpload => ["submodelupload"]
  | .aas => ["aas"]
  | .aasUpload => ["aasupload"]
  | .edc => ["edc"]
  | .edcUpload => ["edcupload"]
  | .dataplane => ["dataplane"]
  | .apiKey => ["apikey"]
  | .esr => ["esr"]
  | .ess => ["ess"]
  | .essUrl => ["ess-url", "essURL"]
  | .bpn => ["bpn"]
  | .policy => ["policy"]
  | .bpns => ["bpns"]
  | .aas3 => ["aas3"]
  | .allowedBpns => ["allowed-bpns", "allowedBPNs"]
  | .help => ["help"]
  | .version => ["version"]

def letter? : Opt → Option Char
  | .file => some 'f'
  | .config => some 'c'
  | .submodel => some 's'
  | .aas => some 'a'
  | .dataplane => some 'd'
  | .apiKey => some 'k'
  | .esr => some 'e'
  | .policy => some 'p'
  | .help => some 'h'
  | .version => some 'V'
  | _ => none

def arity : Opt → Arity
  | .ess | .aas3 | .help | .version => .switch
  | .submodel | .submodelUpload | .edc | .edcUpload | .dataplane | .bpns | .allowedBpns => .list
  | _ => .single

def isPath : Opt → Bool
  | .file | .config => true
  | _ => false

def ofLong? (name : String) : Option Opt := all.find? fun option => option.longNames.contains name

def ofLetter? (letter : Char) : Option Opt := all.find? fun option => option.letter? == some letter

theorem ofLong?_of_mem (option : Opt) (name : String) (h : name ∈ option.longNames) :
    ofLong? name = some option := by
  have all : ∀ option ∈ all, ∀ name ∈ option.longNames, ofLong? name = some option := by decide
  exact all option (mem_all option) name h

theorem ofLetter?_of_eq (option : Opt) (letter : Char) (h : option.letter? = some letter) :
    ofLetter? letter = some option := by
  cases option <;> simp only [letter?, Option.some.injEq, reduceCtorEq] at h <;> subst h <;> rfl

end Opt

-- ---------------------------------------------------------------------------
-- Scanning arguments
-- ---------------------------------------------------------------------------

/-- Why a command line is not taken: requests for help and for the version
number end it too. -/
inductive Usage
  | missingRequired | unknown | invalidValue | conflict | tooManyValues | help | version
  deriving DecidableEq, Repr

structure Occurrence where
  option : Opt
  values : List String
  deriving DecidableEq, Repr

/-- An argument that cannot stand where it does ends the scan. -/
inductive Item
  | occurrence (occurrence : Occurrence)
  | refused (usage : Usage)
  deriving DecidableEq, Repr

/-- An argument by its leading dashes. A lone dash is a plain word. -/
inductive Word
  | plain
  | terminator
  | long (name : String) (attached : Option String)
  | short (letter : Char) (rest : List Char)
  deriving DecidableEq, Repr

namespace Word

def ofLong (text : List Char) : Word :=
  let name := String.ofList (text.takeWhile fun c => c ≠ '=')
  match text.dropWhile fun c => c ≠ '=' with
  | _ :: value => .long name (some (String.ofList value))
  | [] => .long name none

def ofChars : List Char → Word
  | '-' :: '-' :: [] => .terminator
  | '-' :: '-' :: rest => ofLong rest
  | '-' :: letter :: rest => .short letter rest
  | _ => .plain

def ofArgument (argument : String) : Word := ofChars argument.toList

def attached? : List Char → Option String
  | [] => none
  | '=' :: value => some (String.ofList value)
  | value => some (String.ofList value)

end Word

namespace Scan

abbrev Open := Option Occurrence

def close : Open → List Item
  | none => []
  | some occurrence => [.occurrence occurrence]

def accepts (occurrence : Occurrence) : Bool :=
  match occurrence.option.arity with
  | .switch => false
  | .single => occurrence.values.isEmpty
  | .list => true

def push (occurrence : Occurrence) (value : String) : Occurrence :=
  { occurrence with values := occurrence.values ++ [value] }

/-- An option met in the arguments: what it adds to the items, and what is open
after it. Nothing follows an error. -/
inductive Outcome
  | next (items : List Item) (opened : Open)
  | refused (usage : Usage)

def begin (opened : Open) (option : Opt) (attached : Option String) : Outcome :=
  match option.arity, attached with
  | .switch, none => .next (close opened ++ [.occurrence ⟨option, []⟩]) none
  | .switch, some _ => .refused .tooManyValues
  | _, some value => .next (close opened ++ [.occurrence ⟨option, [value]⟩]) none
  | _, none => .next (close opened) (some ⟨option, []⟩)

/-- What is attached to the letter of a switch is never looked at, since both
such switches end the command line. -/
def beginLetter (opened : Open) (option : Opt) (rest : List Char) : Outcome :=
  match option.arity with
  | .switch => begin opened option none
  | _ => begin opened option (Word.attached? rest)

def step (opened : Open) (argument : String) : Outcome :=
  match Word.ofArgument argument with
  | .plain => match opened with
    | some occurrence =>
      if accepts occurrence then .next [] (some (push occurrence argument)) else .refused .unknown
    | none => .refused .unknown
  | .terminator => .refused .unknown
  | .long name attached => match Opt.ofLong? name with
    | some option => begin opened option attached
    | none => .refused .unknown
  | .short letter rest => match Opt.ofLetter? letter with
    | some option => beginLetter opened option rest
    | none => .refused .unknown

/-- An argument that is refused drops the option that is open. Two dashes may
stand last. -/
def items (opened : Open) : List String → List Item
  | [] => close opened
  | argument :: rest =>
    if argument = "--" && rest.isEmpty then close opened
    else match step opened argument with
      | .next done opened => done ++ items opened rest
      | .refused usage => [.refused usage]

end Scan

-- ---------------------------------------------------------------------------
-- Command lines
-- ---------------------------------------------------------------------------

structure CommandLine where
  file : String
  config : Option String
  given : Settings
  deriving DecidableEq, Repr

namespace CommandLine

def occursIn (option : Opt) (seen : List Occurrence) : Bool :=
  seen.any fun occurrence => occurrence.option == option

/-- What is wrong with one more occurrence: no value, then a repetition, then
an empty path. -/
def fault? (seen : List Occurrence) (occurrence : Occurrence) : Option Usage :=
  let repeated := occursIn occurrence.option seen
  match occurrence.option, occurrence.option.arity with
  | .help, _ => some .help
  | .version, _ => some .version
  | _, .switch => if repeated then some .conflict else none
  | option, .single =>
    if occurrence.values.isEmpty then some .invalidValue
    else if repeated then some .conflict
    else if option.isPath && occurrence.values.contains "" then some .invalidValue
    else none
  | _, .list => if occurrence.values.isEmpty then some .invalidValue else none

def check (seen : List Occurrence) : List Item → Except Usage (List Occurrence)
  | [] => .ok seen
  | .refused usage :: _ => .error usage
  | .occurrence occurrence :: rest =>
    match fault? seen occurrence with
    | some usage => .error usage
    | none => check (seen ++ [occurrence]) rest

def valuesOf (option : Opt) (seen : List Occurrence) : List String :=
  (seen.filter fun occurrence => occurrence.option == option).flatMap Occurrence.values

def text? (option : Opt) (seen : List Occurrence) : Option String := (valuesOf option seen).head?

def list? (option : Opt) (seen : List Occurrence) : Option (List String) :=
  if occursIn option seen then some (valuesOf option seen) else none

def settings (seen : List Occurrence) : Settings where
  submodelUrls := valuesOf .submodel seen
  submodelUploadUrls := list? .submodelUpload seen
  registryUrl := text? .aas seen
  registryUploadUrl := text? .aasUpload seen
  connectorUrls := valuesOf .edc seen
  connectorUploadUrls := list? .edcUpload seen
  dataPlaneUrls := list? .dataplane seen
  apiKey := text? .apiKey seen
  certificateUrl := text? .esr seen
  ess := occursIn .ess seen
  essUrl := text? .essUrl seen
  faultyBpn := text? .bpn seen
  policy := text? .policy seen
  bpns := valuesOf .bpns seen
  aas3 := occursIn .aas3 seen
  allowedBpns := valuesOf .allowedBpns seen

def ofOccurrences (seen : List Occurrence) : Except Usage CommandLine :=
  match text? .file seen with
  | some file => .ok ⟨file, text? .config seen, settings seen⟩
  | none => .error .missingRequired

def parse (arguments : List String) : Except Usage CommandLine := do
  let seen ← check [] (Scan.items none arguments)
  ofOccurrences seen

end CommandLine

end Dataspace
