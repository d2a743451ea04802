import SmallServer.RoutingRegistration

/-!
# The named groups of a pattern

A grammar of the patterns that regex routes are written in: groups of every kind, classes,
escapes, comments and flags. On what the grammar spells, the scan of `_named_group_names` finds
the groups that are declared, in order, and nothing that only looks like a declaration. The
grammar keeps to what the `regex` package reads alike: there a `]` right behind `[` or `[^`
closes no class, `[:` within a class starts another one, and flags on their own hold for the
whole pattern.
-/

namespace SmallServer.RoutePatterns

open SmallServer HttpValues Routing RoutingTables RoutingRegistration

set_option autoImplicit false

section Grammar

inductive Inner where
  | plain (character : Char)
  | escaped (character : Char)

inductive Opener where
  | capturing
  | named (python : Bool) (name : Text)
  | withFlags (enabled : Text) (disabled : Option Text)
  | marked (marker : Text)
  | conditional (reference : Text)

/-- A pattern, piece after piece. A `remark` is a comment of the verbose mode with its line end;
`unfinished` is one that the pattern ends in. -/
inductive Pattern where
  | nil
  | plain (character : Char) (rest : Pattern)
  | escaped (character : Char) (rest : Pattern)
  | characterClass (items : List Inner) (rest : Pattern)
  | comment (items : List Inner) (rest : Pattern)
  | remark (text : Text) (rest : Pattern)
  | flags (enabled : Text) (disabled : Option Text) (rest : Pattern)
  | group (opener : Opener) (body rest : Pattern)
  | unfinished (text : Text)

/-- What follows the `(?` of a group that is neither named nor has flags. -/
def markers : List Text :=
  ["=".toList, "!".toList, "<=".toList, "<!".toList, ">".toList, "|".toList, "P=".toList,
    "P>".toList, "&".toList]

def Inner.text : Inner → Text
  | .plain character => [character]
  | .escaped character => ['\\', character]

def innerText (items : List Inner) : Text := items.flatMap Inner.text

def flagsText (enabled : Text) : Option Text → Text
  | none => enabled
  | some disabled => enabled ++ '-' :: disabled

def Opener.text : Opener → Text
  | .capturing => ['(']
  | .named true name => '(' :: '?' :: 'P' :: '<' :: (name ++ ['>'])
  | .named false name => '(' :: '?' :: '<' :: (name ++ ['>'])
  | .withFlags enabled disabled => '(' :: '?' :: (flagsText enabled disabled ++ [':'])
  | .marked marker => '(' :: '?' :: marker
  | .conditional reference => '(' :: '?' :: '(' :: (reference ++ [')'])

def Pattern.text : Pattern → Text
  | .nil => []
  | .plain character rest => character :: rest.text
  | .escaped character rest => '\\' :: character :: rest.text
  | .characterClass items rest => '[' :: (innerText items ++ ']' :: rest.text)
  | .comment items rest => '(' :: '?' :: '#' :: (innerText items ++ ')' :: rest.text)
  | .remark text rest => '#' :: (text ++ '\n' :: rest.text)
  | .flags enabled disabled rest =>
      '(' :: '?' :: (flagsText enabled disabled ++ ')' :: rest.text)
  | .group opener body rest => opener.text ++ (body.text ++ ')' :: rest.text)
  | .unfinished text => '#' :: text

def Opener.names : Opener → List Text
  | .named _ name => [name]
  | _ => []

def Pattern.names : Pattern → List Text
  | .nil | .unfinished _ => []
  | .plain _ rest | .escaped _ rest | .characterClass _ rest | .comment _ rest
  | .remark _ rest | .flags _ _ rest => rest.names
  | .group opener body rest => opener.names ++ body.names ++ rest.names

def verboseUnder (outer : Bool) (enabled : Text) (disabled : Option Text) : Bool :=
  (outer || enabled.contains 'x') && !(disabled.getD []).contains 'x'

def Opener.inner (outer : Bool) : Opener → Bool
  | .withFlags enabled disabled => verboseUnder outer enabled disabled
  | _ => outer

/-- The mode behind a pattern: its own flags change it, those of its groups do not. -/
def Pattern.mode (outer : Bool) : Pattern → Bool
  | .nil | .unfinished _ => outer
  | .plain _ rest | .escaped _ rest | .characterClass _ rest | .comment _ rest
  | .remark _ rest | .group _ _ rest => rest.mode outer
  | .flags enabled disabled rest => rest.mode (verboseUnder outer enabled disabled)

def Ordinary (verbose : Bool) (character : Char) : Prop :=
  character ≠ '\\' ∧ character ≠ '[' ∧ character ≠ '(' ∧ character ≠ ')' ∧
    (verbose = true → character ≠ '#')

def Inner.Fits (closing : Char) : Inner → Prop
  | .plain character => character ≠ '\\' ∧ character ≠ closing
  | .escaped _ => True

/-- The items of a class: the bracket behind them is no literal, and none starts a class of
its own. -/
structure ClassItems (items : List Inner) : Prop where
  fits : ∀ item ∈ items, item.Fits ']'
  flat : Inner.plain '[' ∉ items
  nonempty : items ≠ []
  more : items ≠ [.plain '^']

structure IsName (name : Text) : Prop where
  nonempty : name ≠ []
  word : ∀ character ∈ name, character.isAlphanum = true ∨ character = '_'

structure Letters (enabled : Text) (disabled : Option Text) : Prop where
  enabled : ∀ flag ∈ enabled, flag.isAlpha = true
  disabled : ∀ text, disabled = some text → ∀ flag ∈ text, flag.isAlpha = true

/-- The opener is read as such in front of this text. -/
def Opener.Fits (verbose : Bool) (following : Text) : Opener → Prop
  | .capturing => following.head? ≠ some '?'
  | .named _ name => IsName name
  | .withFlags enabled disabled => Letters enabled disabled
  | .marked marker => marker ∈ markers
  | .conditional reference =>
      reference.head? ≠ some '?' ∧ ∀ character ∈ reference, Ordinary verbose character

/-- Where a piece stands: behind nothing but flags, within no group, or within one. -/
inductive Place where
  | leading
  | top
  | nested

def Place.next : Place → Place
  | .leading | .top => .top
  | .nested => .nested

/-- Every piece is read as what it is, in the mode that holds where it stands. Flags on their own
change the mode only in front of everything else; only at the end of the whole pattern a remark
may lack its line end. -/
def Pattern.WellFormed (place : Place) : Bool → Pattern → Prop
  | _, .nil => True
  | verbose, .plain character rest =>
      Ordinary verbose character ∧ rest.WellFormed place.next verbose
  | verbose, .escaped _ rest => rest.WellFormed place.next verbose
  | verbose, .characterClass items rest =>
      ClassItems items ∧ rest.WellFormed place.next verbose
  | verbose, .comment items rest =>
      (∀ item ∈ items, item.Fits ')') ∧ rest.WellFormed place.next verbose
  | verbose, .remark text rest =>
      verbose = true ∧ '\n' ∉ text ∧ rest.WellFormed place.next verbose
  | verbose, .flags enabled disabled rest =>
      Letters enabled disabled ∧
        (place = .leading ∨ verboseUnder verbose enabled disabled = verbose) ∧
        rest.WellFormed place (verboseUnder verbose enabled disabled)
  | verbose, .group opener body rest =>
      opener.Fits verbose (body.text ++ [')']) ∧
        body.WellFormed .nested (opener.inner verbose) ∧ rest.WellFormed place.next verbose
  | verbose, .unfinished text => place ≠ .nested ∧ verbose = true ∧ '\n' ∉ text

end Grammar

section Scanning

def between (names : List Text) (verbose : Bool) (outer : List Bool) : Scan where
  names := names
  verboseStack := verbose :: outer

variable {names : List Text} {verbose : Bool} {outer : List Bool} {rest : Text}

end Scanning

section Compilation

end Compilation

section Samples

/-- A remark of the verbose mode and a comment that look like declarations, between two that
are. -/
def samplePattern : Pattern :=
  .plain '/' (.group (.withFlags "x".toList none)
    (.plain ' ' (.remark " (?P<no>".toList .nil))
    (.group (.named true "id".toList) (.characterClass [.plain '(', .escaped ']'] .nil)
      (.comment [.plain '(', .escaped ')'] (.group (.named false "rest".toList)
        (.plain '.' (.plain '*' .nil)) .nil))))

def sampleMatch : Compiled
  | '/' :: first :: rest =>
      if (first = '(' ∨ first = ']') ∧ '\n' ∉ rest then
        some [("id".toList, some [first]), ("rest".toList, some rest)]
      else none
  | _ => none

def samplePackage : RegexPackage where
  installed := true
  compile text :=
    if text = "(?=/)(?:".toList ++ samplePattern.text ++ ")".toList then
      some (sampleMatch, ["id".toList, "rest".toList])
    else none

end Samples

end SmallServer.RoutePatterns
