import FeatureChoice.Command.Usage
import FeatureChoice.Text.Digit
import FeatureChoice.Text.Lines
/-!
Switches of a command line. A switch has short names of one letter and long names. A long name can
be abbreviated as long as only one is meant; a value can follow its switch or be joined to it; and
short switches without values can share a dash. After two dashes alone nothing is a switch any
more.

Main statement: recognising switches keeps every text in its place (`map_text_pieces`).
-/

namespace FeatureChoice.Command

/-- A switch. -/
structure Switch where
  names : List String
  takesValue : Bool
  deriving DecidableEq, Repr

def Switch.label (s : Switch) : String := "/".intercalate s.names

/-- A switch by one of its names. -/
structure NamedSwitch where
  switch : Switch
  name : String
  deriving DecidableEq, Repr

def allNames (switches : List Switch) : List NamedSwitch :=
  switches.flatMap fun s => s.names.map fun name => ⟨s, name⟩

def findName (switches : List Switch) (name : String) : Option NamedSwitch :=
  (allNames switches).find? fun n => n.name = name

/-! ### Recognising switches -/

def dividerText : String := "--"

/-- What a text of a command line is. -/
inductive Reading where
  | word
  | divider
  /-- A switch with what is joined to it, directly or by an equals sign. -/
  | switch (n : NamedSwitch) (joined : Option String)
  | unknown
  deriving DecidableEq, Repr

/-- A text of a command line and what it is. -/
structure Piece where
  text : String
  reading : Reading
  deriving DecidableEq, Repr

/-- The switches that a text which is no name can stand for, with what is joined to them. -/
def candidates (switches : List Switch) (text : String) : List (NamedSwitch × Option String) :=
  if text.startsWith dividerText then
    let (stem, value) := cutAtEquals text
    ((allNames switches).filter fun n => n.name.startsWith stem).map fun n => (n, value)
  else
    let cs := text.toList
    ((allNames switches).filter fun n => n.name.toList = cs.take 2).map fun n =>
      (n, some (String.ofList (cs.drop 2)))

/-- Whether a text is a number below zero: digits with or without a point before some of them. -/
def isNegative (text : String) : Bool :=
  match (Text.trimOneFeed text).toList with
  | '-' :: cs =>
    match cs.dropWhile Text.isDecimal with
    | [] => !cs.isEmpty
    | '.' :: digits => !digits.isEmpty && digits.all Text.isDecimal
    | _ => false
  | _ => false

/-- What a text that starts with a dash and is no name of a switch is. -/
def recogniseDashed (switches : List Switch) (text : String) : Except UsageError Reading :=
  let (stem, value) := cutAtEquals text
  match value, findName switches stem with
  | some value, some n => .ok (.switch n (some value))
  | _, _ =>
    match candidates switches text with
    | [(n, joined)] => .ok (.switch n joined)
    | [] => .ok (if isNegative text || text.toList.contains ' ' then .word else .unknown)
    | several => .error (.ambiguous text (several.map fun c => c.1.name))

def recognise (switches : List Switch) (text : String) : Except UsageError Reading :=
  if !text.startsWith "-" || text = "-" then .ok .word
  else match findName switches text with
    | some n => .ok (.switch n none)
    | none => recogniseDashed switches text

def pieces (switches : List Switch) : List String → Except UsageError (List Piece)
  | [] => .ok []
  | text :: texts => do
    if text = dividerText then
      return ⟨text, .divider⟩ :: texts.map fun t => ⟨t, .word⟩
    let reading ← recognise switches text
    return ⟨text, reading⟩ :: (← pieces switches texts)

/-! ### Using switches -/

/-- The switches of one text; the last one has a value if one is joined to it. -/
structure Bundle where
  before : List Switch
  last : Switch
  value : Option String
  deriving DecidableEq, Repr

/-- The bundle that starts with a short switch, to which text is joined. As long as a switch takes
no value, the next letter has to be a short switch, too. -/
def shortBundle (switches : List Switch) (s : Switch) : List Char → Except UsageError Bundle
  | [] => if s.takesValue then .ok ⟨[], s, some ""⟩ else .error (.needless s.label "")
  | c :: cs =>
    let joined := String.ofList (c :: cs)
    if s.takesValue then .ok ⟨[], s, some joined⟩
    else match findName switches (String.ofList ['-', c]) with
      | none => .error (.needless s.label joined)
      | some n =>
        let rest : Except UsageError Bundle := match cs with
          | [] => .ok ⟨[], n.switch, none⟩
          | cs => shortBundle switches n.switch cs
        rest.map fun b => { b with before := s :: b.before }

/-- The bundle that a long switch is, to which text is joined. -/
def longBundle (s : Switch) (joined : String) : Except UsageError Bundle :=
  if s.takesValue then .ok ⟨[], s, some joined⟩ else .error (.needless s.label joined)

def NamedSwitch.bundle (switches : List Switch) (n : NamedSwitch) :
    Option String → Except UsageError Bundle
  | none => .ok ⟨[], n.switch, none⟩
  | some joined =>
    if n.name.startsWith dividerText then longBundle n.switch joined
    else shortBundle switches n.switch joined.toList

/-! ### Going through a command line -/

/-- What is found on a command line. -/
inductive Found where
  /-- A switch, with a value if it takes one. -/
  | use (s : Switch) (value : Option String)
  /-- The words that the command line is about. -/
  | words (ws : List String)
  /-- A text that nothing asks for. -/
  | surplus (text : String)
  deriving DecidableEq, Repr

/-- The words that a command line can be about. -/
inductive Subject where
  | nothing
  | oneWord
  | everything
  deriving DecidableEq, Repr

/-- What is found on a command line up to its end or to an error. -/
structure Findings where
  found : List Found
  error : Option UsageError
  deriving DecidableEq, Repr

namespace Findings

def finish : Findings := ⟨[], none⟩

def stop (e : UsageError) : Findings := ⟨[], some e⟩

def before (f : Found) (fs : Findings) : Findings := { fs with found := f :: fs.found }

def beforeAll (switches : List Switch) (fs : Findings) : Findings :=
  { fs with found := switches.map (fun s => .use s none) ++ fs.found }

end Findings

/-- Go through a command line that is still to be about some subject. -/
def findings (switches : List Switch) : Subject → List Piece → Findings
  | _, [] => .finish
  | subject, p :: ps =>
    match p.reading with
    | .unknown => (findings switches subject ps).before (.surplus p.text)
    | .word =>
      match subject with
      | .nothing => (findings switches subject ps).before (.surplus p.text)
      | .everything => ⟨[.words (p.text :: ps.map Piece.text)], none⟩
      | .oneWord =>
        match ps with
        | ⟨_, .divider⟩ :: qs => (findings switches .nothing qs).before (.words [p.text])
        | ps => (findings switches .nothing ps).before (.words [p.text])
    | .divider =>
      match subject, ps with
      | .everything, q :: qs => ⟨[.words (p.text :: q.text :: qs.map Piece.text)], none⟩
      | .oneWord, q :: qs => (findings switches .nothing qs).before (.words [q.text])
      | _, ps => (findings switches subject ps).before (.surplus p.text)
    | .switch n joined =>
      match n.bundle switches joined with
      | .error e => .stop e
      | .ok ⟨before, s, value⟩ =>
        if s.takesValue && value.isNone then
          match ps with
          | ⟨value, .word⟩ :: qs =>
            ((findings switches subject qs).before (.use s (some value))).beforeAll before
          | _ => .stop (.noValue s.label)
        else ((findings switches subject ps).before (.use s value)).beforeAll before
  termination_by _ pieces => pieces.length

/-- The pieces of a command line are its texts, in order. -/
theorem map_text_pieces {switches : List Switch} {texts : List String} {ps : List Piece}
    (h : pieces switches texts = .ok ps) : ps.map Piece.text = texts := by
  induction texts generalizing ps with
  | nil => simp only [pieces, Except.ok.injEq] at h; simp [← h]
  | cons text texts ih =>
    simp only [pieces] at h
    split at h
    · simp only [pure, Except.pure, Except.ok.injEq] at h
      simp [← h, Function.comp_def]
    · cases found : recognise switches text with
      | error e => simp [found, bind, Except.bind] at h
      | ok reading =>
        cases rest : pieces switches texts with
        | error e => simp [found, rest, bind, Except.bind] at h
        | ok qs =>
          simp only [found, rest, bind, Except.bind, pure, Except.pure, Except.ok.injEq] at h
          simp [← h, ih rest]

end FeatureChoice.Command
