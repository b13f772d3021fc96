import DesktopTrial.Yaml.Token.Scanner

/-!
# Reading YAML nodes

The nodes that a sequence of tokens denotes.  A text holds one document at most;
where a key, a value or an item is left out, a blank scalar stands in its place.
-/

namespace DesktopTrial.Yaml

/-- Tokens still to be read, and the anchors met so far. -/
structure Composer where
  tokens : List Token
  /-- The expansions of tag handles. -/
  handles : List (String × String)
  /-- The slot of every anchor name in use. -/
  slots : List (String × Nat)
  /-- The number of the latest node in each slot, latest first. -/
  owners : List (Nat × Nat)
  /-- The anchored nodes that are complete, by their number. -/
  nodes : List (Nat × Node)
  /-- The number of anchored nodes begun. -/
  begun : Nat

structure Properties where
  anchor : Option String
  tag : Option (String × String)

namespace Composer

def peek (c : Composer) : Option Token := c.tokens.head?

def drop (c : Composer) : Composer := { c with tokens := c.tokens.drop 1 }

/-- Is one of these tokens next?  The end of the tokens ends everything. -/
def atAny (marks : List Token) (c : Composer) : Bool :=
  match c.tokens with
  | token :: _ => marks.contains token
  | [] => true

/-- Takes an anchor and a tag from the front, in either order. -/
def properties (c : Composer) : Properties × Composer :=
  match c.tokens with
  | .anchor name :: .tag handle suffix :: rest =>
      (⟨some name, some (handle, suffix)⟩, { c with tokens := rest })
  | .tag handle suffix :: .anchor name :: rest =>
      (⟨some name, some (handle, suffix)⟩, { c with tokens := rest })
  | .anchor name :: rest => (⟨some name, none⟩, { c with tokens := rest })
  | .tag handle suffix :: rest => (⟨none, some (handle, suffix)⟩, { c with tokens := rest })
  | _ => (⟨none, none⟩, c)

/-- The full name of a tag; `none` outside when its handle is unknown. -/
def fullTag? (tag : Option (String × String)) (c : Composer) : Option (Option String) :=
  match tag with
  | none => some none
  | some (handle, suffix) =>
      if handle.isEmpty then some (some suffix)
      else (c.handles.lookup handle).map fun expansion => some (expansion ++ suffix)

/-- Begins a node with an anchor: the name takes the slot numbered by the names
in use, and aliases to that slot now mean this node. -/
def begin (anchor : Option String) (c : Composer) : Option Nat × Composer :=
  match anchor with
  | none => (none, c)
  | some name =>
      let slot := c.slots.length
      let slots := (name, slot) :: c.slots.filter fun entry => entry.1 != name
      (some c.begun,
        { c with slots, owners := (slot, c.begun) :: c.owners, begun := c.begun + 1 })

def complete (number : Option Nat) (node : Node) (c : Composer) : Composer :=
  match number with
  | none => c
  | some number => { c with nodes := (number, node) :: c.nodes }

/-- What each slot stands for in the end. -/
def anchored (c : Composer) : List (Nat × Node) :=
  c.owners.filterMap fun (slot, number) => (c.nodes.lookup number).map fun node => (slot, node)

end Composer

/-- Where a node stands decides what it may be. -/
structure Position where
  /-- Block sequences and mappings may stand here. -/
  block : Bool
  /-- Items may follow without an indentation of their own. -/
  indentless : Bool

/-- What reading gives: a value and the state behind it. -/
abbrev Composed (α : Type) := Option (α × Composer)

mutual

/-- Reads a node.  `fuel` bounds the number of nested readers. -/
def readNode? : Nat → Position → Composer → Composed Node
  | 0, _, _ => none
  | fuel + 1, position, c =>
      match c.tokens with
      | .alias name :: rest =>
          (c.slots.lookup name).map fun slot => (.alias slot, { c with tokens := rest })
      | _ =>
          let (properties, c) := c.properties
          match c.fullTag? properties.tag with
          | none => none
          | some tag =>
              let (number, c) := c.begin properties.anchor
              let finish (result : Composed Node) : Composed Node :=
                result.map fun (node, c) => (node, c.complete number node)
              match c.tokens with
              | .blockEntry :: _ =>
                  if position.indentless then
                    finish ((readIndentless? fuel c).map fun (items, c) =>
                      (.sequence tag items, c))
                  else finish (blankOr properties tag c)
              | .scalar style text :: rest =>
                  finish (some (.scalar tag style text, { c with tokens := rest }))
              | .flowSequenceStart :: rest =>
                  finish ((readFlowItems? fuel true { c with tokens := rest }).map
                    fun (items, c) => (.sequence tag items, c))
              | .flowMappingStart :: rest =>
                  finish ((readFlowMembers? fuel true { c with tokens := rest }).map
                    fun (members, c) => (.mapping tag members, c))
              | .blockSequenceStart :: rest =>
                  if position.block then
                    finish ((readBlockItems? fuel { c with tokens := rest }).map
                      fun (items, c) => (.sequence tag items, c))
                  else finish (blankOr properties tag c)
              | .blockMappingStart :: rest =>
                  if position.block then
                    finish ((readBlockMembers? fuel { c with tokens := rest }).map
                      fun (members, c) => (.mapping tag members, c))
                  else finish (blankOr properties tag c)
              | _ => finish (blankOr properties tag c)
where
  /-- Without content, a node is blank if it has a property. -/
  blankOr (properties : Properties) (tag : Option String) (c : Composer) : Composed Node :=
    if properties.anchor.isSome || tag.isSome then some (.scalar tag .plain "", c) else none

/-- Reads a node unless one of the marks says that it is left out. -/
def readOptional? : Nat → Position → List Token → Composer → Composed Node
  | 0, _, _, _ => none
  | fuel + 1, position, marks, c =>
      if c.atAny marks then some (.blank, c) else readNode? fuel position c

def readBlockItems? : Nat → Composer → Composed (List Node)
  | 0, _ => none
  | fuel + 1, c =>
      match c.peek with
      | some .blockEntry =>
          match readOptional? fuel ⟨true, false⟩ [.blockEntry, .blockEnd] c.drop with
          | none => none
          | some (item, c) =>
              (readBlockItems? fuel c).map fun (items, c) => (item :: items, c)
      | some .blockEnd => some ([], c.drop)
      | _ => none

/-- Items without an indentation of their own. -/
def readIndentless? : Nat → Composer → Composed (List Node)
  | 0, _ => none
  | fuel + 1, c =>
      match c.peek with
      | some .blockEntry =>
          match readOptional? fuel ⟨true, false⟩ [.blockEntry, .key, .value, .blockEnd]
              c.drop with
          | none => none
          | some (item, c) =>
              (readIndentless? fuel c).map fun (items, c) => (item :: items, c)
      | _ => some ([], c)

def readBlockMembers? : Nat → Composer → Composed (List (Node × Node))
  | 0, _ => none
  | fuel + 1, c =>
      let marks : List Token := [.key, .value, .blockEnd]
      match c.peek with
      | some .key =>
          match readOptional? fuel ⟨true, true⟩ marks c.drop with
          | none => none
          | some (key, c) =>
              match c.peek with
              | some .value =>
                  match readOptional? fuel ⟨true, true⟩ marks c.drop with
                  | none => none
                  | some (value, c) =>
                      (readBlockMembers? fuel c).map fun (members, c) =>
                        ((key, value) :: members, c)
              | _ =>
                  (readBlockMembers? fuel c).map fun (members, c) =>
                    ((key, .blank) :: members, c)
      | some .blockEnd => some ([], c.drop)
      | _ => none

/-- The items of a flow sequence, up to its bracket.  An item with a key is a
mapping with one member. -/
def readFlowItems? : Nat → Bool → Composer → Composed (List Node)
  | 0, _, _ => none
  | fuel + 1, first, c =>
      let item? (c : Composer) : Composed (List Node) :=
        match c.peek with
        | some .flowSequenceEnd => some ([], c.drop)
        | some .key =>
            match readFlowPair? fuel c.drop with
            | none => none
            | some (item, c) =>
                (readFlowItems? fuel false c).map fun (items, c) => (item :: items, c)
        | _ =>
            match readNode? fuel ⟨false, false⟩ c with
            | none => none
            | some (item, c) =>
                (readFlowItems? fuel false c).map fun (items, c) => (item :: items, c)
      match first, c.peek with
      | _, some .flowSequenceEnd => some ([], c.drop)
      | true, _ => item? c
      | false, some .flowEntry => item? c.drop
      | false, _ => none

/-- The key and value of a mapping that is an item of a flow sequence.  A mark in
the place of the key is passed over. -/
def readFlowPair? : Nat → Composer → Composed Node
  | 0, _ => none
  | fuel + 1, c =>
      let key := if c.atAny [.value, .flowEntry, .flowSequenceEnd] then some (.blank, c.drop)
        else readNode? fuel ⟨false, false⟩ c
      match key with
      | none => none
      | some (key, c) =>
          match c.peek with
          | some .value =>
              (readOptional? fuel ⟨false, false⟩ [.flowEntry, .flowSequenceEnd] c.drop).map
                fun (value, c) => (.mapping none [(key, value)], c)
          | _ => some (.mapping none [(key, .blank)], c)

def readFlowMembers? : Nat → Bool → Composer → Composed (List (Node × Node))
  | 0, _, _ => none
  | fuel + 1, first, c =>
      let more (member : Node × Node) (c : Composer) : Composed (List (Node × Node)) :=
        (readFlowMembers? fuel false c).map fun (members, c) => (member :: members, c)
      let member? (c : Composer) : Composed (List (Node × Node)) :=
        match c.peek with
        | some .flowMappingEnd => some ([], c.drop)
        | some .key =>
            match readOptional? fuel ⟨false, false⟩ [.value, .flowEntry, .flowMappingEnd]
                c.drop with
            | none => none
            | some (key, c) =>
                match c.peek with
                | some .value =>
                    match readOptional? fuel ⟨false, false⟩ [.flowEntry, .flowMappingEnd]
                        c.drop with
                    | none => none
                    | some (value, c) => more (key, value) c
                | _ => more (key, .blank) c
        | _ =>
            match readNode? fuel ⟨false, false⟩ c with
            | none => none
            | some (key, c) => more (key, .blank) c
      match first, c.peek with
      | _, some .flowMappingEnd => some ([], c.drop)
      | true, _ => member? c
      | false, some .flowEntry => member? c.drop
      | false, _ => none

end

def standardHandles : List (String × String) :=
  [("!", "!"), ("!!", "tag:yaml.org,2002:")]

/-- The directives in front of a document: one version at most, which must be
1.1 or 1.2, and every handle at most once. -/
def readDirectives? (versioned : Bool) (handles : List (String × String)) :
    List Token → Option (List (String × String) × List Token)
  | .version major minor :: rest =>
      if versioned || major ≠ 1 || (minor ≠ 1 && minor ≠ 2) then none
      else readDirectives? true handles rest
  | .tagHandle handle expansion :: rest =>
      if (handles.lookup handle).isSome then none
      else readDirectives? versioned (handles ++ [(handle, expansion)]) rest
  | rest => some (handles, rest)

def Composer.start (handles : List (String × String)) (tokens : List Token) : Composer :=
  ⟨tokens, handles ++ standardHandles, [], [], [], 0⟩

/-- Does one of the marks that end a document come first? -/
def endsDocument : List Token → Bool
  | [] => true
  | .version _ _ :: _ => true
  | .tagHandle _ _ :: _ => true
  | .documentStart :: _ => true
  | .documentEnd :: _ => true
  | _ => false

/-- The one document of a text; a text without any has a blank root. -/
def ofTokens? (tokens : List Token) : Option Contents :=
  let fuel := 2 * tokens.length + 2
  let finish (result : Composed Node) : Option Contents :=
    match result with
    | some (root, c) =>
        if c.tokens.all (· == .documentEnd) then some ⟨root, c.anchored⟩ else none
    | none => none
  match tokens with
  | [] => some ⟨.blank, []⟩
  | .documentEnd :: _ => none
  | _ =>
      if endsDocument tokens then
        match readDirectives? false [] tokens with
        | some (handles, .documentStart :: rest) =>
            let c := Composer.start handles rest
            if endsDocument rest then finish (some (.blank, c))
            else finish (readNode? fuel ⟨true, false⟩ c)
        | _ => none
      else finish (readNode? fuel ⟨true, false⟩ (Composer.start [] tokens))

/-- Reads a text that holds one document at most. -/
def read? (text : String) : Option Contents := (scan? text.toList).bind ofTokens?

end DesktopTrial.Yaml
