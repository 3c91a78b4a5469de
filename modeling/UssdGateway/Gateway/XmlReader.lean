import UssdGateway.Gateway.Operations

/-!
`ET.fromstring` on documents of elements, attributes and text: without comments, CDATA sections and
a document type, and with well-formed names.
-/

namespace UssdGateway

def chr (char : Char) : CodePoint := CodePoint.ofChar char

namespace Xml

/-- `Char` of XML 1.0. -/
def legal (point : CodePoint) : Bool :=
  point == chr '\t' || point == chr '\n' || point == chr '\r' ||
  (decide (0x20 ≤ point.val) && decide (point.val ≤ 0xD7FF)) ||
  (decide (0xE000 ≤ point.val) && decide (point.val ≤ 0xFFFD)) || decide (0x10000 ≤ point.val)

def isSpace (point : CodePoint) : Bool :=
  point == chr ' ' || point == chr '\t' || point == chr '\n' || point == chr '\r'

/-- A carriage return is a line feed, and the line feed after it is none. -/
def normalised (afterReturn : Bool) : Str → Str
  | [] => []
  | point :: rest =>
      if point = chr '\r' then chr '\n' :: normalised true rest
      else if afterReturn = true ∧ point = chr '\n' then normalised false rest
      else point :: normalised false rest

def digitValue (point : CodePoint) : Option Nat :=
  if 0x30 ≤ point.val ∧ point.val ≤ 0x39 then some (point.val - 0x30)
  else if 0x41 ≤ point.val ∧ point.val ≤ 0x46 then some (point.val - 0x37)
  else if 0x61 ≤ point.val ∧ point.val ≤ 0x66 then some (point.val - 0x57)
  else none

def readNumber (base : Nat) (digits : Str) : Option Nat :=
  if digits = [] then none
  else
    digits.foldlM (fun value point => do
      let digit ← digitValue point
      if digit < base then some (base * value + digit) else none) 0

def legalPoint (value : Nat) : Option CodePoint :=
  if inside : value < 0x110000 then
    if legal ⟨value, inside⟩ then some ⟨value, inside⟩ else none
  else none

def reference (name : Str) : Option CodePoint :=
  match name with
  | mark :: digits =>
      if mark = chr '#' then
        match digits with
        | [] => none
        | first :: hex =>
            (if first = chr 'x' then readNumber 16 hex else readNumber 10 digits).bind legalPoint
      else
        List.lookup name
          [(lit "amp", chr '&'), (lit "lt", chr '<'), (lit "gt", chr '>'), (lit "quot", chr '"'),
            (lit "apos", chr '\'')]
  | [] => none

def decoded (pending : Option Str) : Str → Option Str
  | [] => if pending = none then some [] else none
  | point :: rest =>
      match pending with
      | none =>
          if point = chr '&' then decoded (some []) rest
          else (decoded none rest).map fun later => point :: later
      | some name =>
          if point = chr ';' then do
            let meant ← reference name
            let later ← decoded none rest
            some (meant :: later)
          else decoded (some (name ++ [point])) rest

def characterData (text : Str) : Option Str := decoded none (normalised false text)

inductive Reading where
  | text
  | tag (quote : Option CodePoint)

def afterQuote (quote : Option CodePoint) (point : CodePoint) : Option CodePoint :=
  match quote with
  | none => if point = chr '"' ∨ point = chr '\'' then some point else none
  | some mark => if point = mark then none else some mark

def scan : Reading → Str → Str → Option (List Str)
  | .text, buffer, [] => some [buffer]
  | .tag _, _, [] => none
  | .text, buffer, point :: rest =>
      if point = chr '<' then (scan (.tag none) [] rest).map fun later => buffer :: later
      else scan .text (buffer ++ [point]) rest
  | .tag quote, buffer, point :: rest =>
      if quote = none ∧ point = chr '>' then
        (scan .text [] rest).map fun later => buffer :: later
      else scan (.tag (afterQuote quote point)) (buffer ++ [point]) rest

inductive Tag where
  | declaration
  | opening (name : Str) (attributes : List (Str × Str))
  | selfClosing (name : Str) (attributes : List (Str × Str))
  | closing (name : Str)
deriving DecidableEq

def readAttributes : Nat → Str → Option (List (Str × Str))
  | 0, _ => none
  | fuel + 1, text =>
      match text.dropWhile isSpace with
      | [] => some []
      | point :: rest =>
          let name := (point :: rest).takeWhile fun other => other != chr '='
          match (point :: rest).drop name.length with
          | _ :: mark :: quoted =>
              if mark = chr '"' ∨ mark = chr '\'' then do
                let spelled := quoted.takeWhile fun other => other != mark
                let value ← decoded none spelled
                let later ← readAttributes fuel (quoted.drop (spelled.length + 1))
                some ((Str.rstripBy isSpace name, value) :: later)
              else none
          | _ => none

def readOpening (text : Str) : Option (Str × List (Str × Str)) :=
  let name := text.takeWhile fun point => !isSpace point
  if name = [] then none
  else (readAttributes (text.length + 1) (text.drop name.length)).map fun read => (name, read)

def readTag (text : Str) : Option Tag :=
  match text with
  | [] => none
  | mark :: rest =>
      if mark = chr '?' then some .declaration
      else if mark = chr '!' then none
      else if mark = chr '/' then some (.closing (Str.rstripBy isSpace rest))
      else if text.getLast? = some (chr '/') then
        (readOpening text.dropLast).map fun read => .selfClosing read.1 read.2
      else (readOpening text).map fun read => .opening read.1 read.2

abbrev Scope := List (Str × Str)

def declared (attributes : List (Str × Str)) : Scope :=
  attributes.filterMap fun (name, value) =>
    if name = lit "xmlns" then some ([], value)
    else if (lit "xmlns:").isPrefixOf name then some (name.drop 6, value)
    else none

def clark (scope : Scope) (name : Str) : Option Str :=
  let lead := name.takeWhile fun point => point != chr ':'
  let inNamespace (uri local_ : Str) := lit "\x7b" ++ uri ++ lit "\x7d" ++ local_
  if lead = name then
    match List.lookup [] scope with
    | none => some name
    | some uri => if uri = [] then some name else some (inNamespace uri name)
  else (List.lookup lead scope).map fun uri => inNamespace uri (name.drop (lead.length + 1))

structure Frame where
  name : Str
  tag : Str
  text : Str
  scope : Scope
  children : List Element

def Frame.withChild (frame : Frame) (child : Element) : Frame :=
  { frame with children := frame.children ++ [child] }

def elementText (text : Str) : Option Str := if text = [] then none else some text

def Frame.element (frame : Frame) : Element :=
  .node frame.tag (elementText frame.text) frame.children

def openFrame (frames : List Frame) (name : Str) (attributes : List (Str × Str)) (data : Str) :
    Option Frame :=
  let scope := declared attributes ++ (frames.head?.map Frame.scope).getD []
  (clark scope name).map fun tag => ⟨name, tag, data, scope, []⟩

def afterElement (element : Element) (data : Str) (outer : List Frame)
    (rest : List Frame → Option Element) (last : Bool) : Option Element :=
  match outer with
  | [] => if last = true ∧ data.all isSpace = true then some element else none
  | parent :: above => rest (parent.withChild element :: above)

def build : List Frame → List (Str × Str) → Option Element
  | _, [] => none
  | frames, (tag, after) :: rest =>
      match characterData after, readTag tag with
      | some data, some .declaration =>
          if frames.isEmpty = true ∧ data.all isSpace = true then build [] rest else none
      | some data, some (.opening name attributes) =>
          (openFrame frames name attributes data).bind fun frame => build (frame :: frames) rest
      | some data, some (.selfClosing name attributes) =>
          (openFrame frames name attributes []).bind fun frame =>
            afterElement frame.element data frames (fun outer => build outer rest) rest.isEmpty
      | some data, some (.closing name) =>
          match frames with
          | [] => none
          | frame :: outer =>
              if frame.name = name then
                afterElement frame.element data outer (fun outer => build outer rest) rest.isEmpty
              else none
      | _, _ => none

def pairs : List Str → List (Str × Str)
  | tag :: text :: rest => (tag, text) :: pairs rest
  | _ => []

def fromstring (document : Str) : Option Element :=
  if document.all legal = true then
    match scan .text [] document with
    | some (lead :: later) => if lead.all isSpace = true then build [] (pairs later) else none
    | _ => none
  else none

end Xml

end UssdGateway
