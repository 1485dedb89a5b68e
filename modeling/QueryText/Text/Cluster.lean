import QueryText.Text.ClusterTable

namespace QueryText.Text.Cluster

open ClusterTable

inductive Role where
  | plain
  | carriageReturn
  | lineFeed
  | control
  | extender
  | joiner
  | spacing
  | leading
  | flag
  | pictograph
  | consonant
  | syllableHead
  | vowel
  | syllableTail
  | openSyllable
  | closedSyllable
  deriving DecidableEq

namespace Role

def within (first last : Nat) (c : Char) : Bool :=
  first ≤ c.toNat && c.toNat ≤ last

def ofAscii (c : Char) : Role :=
  if c == '\r' then carriageReturn
  else if c == '\n' then lineFeed
  else if c.toNat < 32 || c.toNat == 127 then control
  else plain

/-- Whole syllables stand in rows of twenty-eight, of which the first has no tail. -/
def syllable (c : Char) : Role :=
  if (c.toNat - 0xAC00) % 28 == 0 then openSyllable else closedSyllable

def ofSyllable? (c : Char) : Option Role :=
  if within 0x1100 0x115F c || within 0xA960 0xA97C c then some syllableHead
  else if within 0x1160 0x11A7 c || within 0xD7B0 0xD7C6 c then some vowel
  else if c.toNat == 0x16D63 || within 0x16D67 0x16D6A c then some vowel
  else if within 0x11A8 0x11FF c || within 0xD7CB 0xD7FB c then some syllableTail
  else if within 0xAC00 0xD7A3 c then some (syllable c)
  else none

/-- The skin tones of an emoji extend it as marks extend a letter. -/
def isExtender (c : Char) : Bool :=
  extendRanges.covers c || within 0x1F3FB 0x1F3FF c

def beyondAscii (c : Char) : Role :=
  if c.toNat == 0x200D then joiner
  else if isExtender c then extender
  else if spacingRanges.covers c then spacing
  else if leadingRanges.covers c then leading
  else if controlRanges.covers c then control
  else if within 0x1F1E6 0x1F1FF c then flag
  else if pictographRanges.covers c then pictograph
  else if consonantRanges.covers c then consonant
  else (ofSyllable? c).getD plain

def ofChar (c : Char) : Role :=
  if c.toNat < 128 then ofAscii c else beyondAscii c

end Role

/-- A conjunct goes on over marks and joiners, but not over the non-joiner. -/
def keepsConjunct (c : Char) (r : Role) : Bool :=
  r == .joiner || r == .extender && c.toNat != 0x200C

/-- What stands before a character, as far as it matters for the next one. -/
structure Before where
  role : Role
  /-- a pictograph, with extenders only behind it -/
  pictograph : Bool
  /-- such a pictograph and a joiner -/
  joined : Bool
  /-- the first half of a flag -/
  halfFlag : Bool
  /-- a consonant whose conjunct goes on -/
  conjunct : Bool
  /-- such a consonant and a linker -/
  linked : Bool

namespace Before

def start : Before :=
  ⟨.lineFeed, false, false, false, false, false⟩

def push (b : Before) (c : Char) : Before :=
  let r := Role.ofChar c
  let kept := b.conjunct && keepsConjunct c r
  { role := r
    pictograph := r == .pictograph || b.pictograph && r == .extender
    joined := b.pictograph && r == .joiner
    halfFlag := r == .flag && !b.halfFlag
    conjunct := r == .consonant || kept
    linked := kept && (b.linked || linkerRanges.covers c) }

/-- A character of the role `r` stands in one cluster with the character before it. -/
def joins (b : Before) (r : Role) : Bool :=
  match b.role, r with
  | .carriageReturn, .lineFeed => true
  | .carriageReturn, _ | .lineFeed, _ | .control, _ => false
  | _, .carriageReturn | _, .lineFeed | _, .control => false
  | _, .extender | _, .joiner | _, .spacing | .leading, _ => true
  | .syllableHead, .syllableHead | .syllableHead, .vowel => true
  | .syllableHead, .openSyllable | .syllableHead, .closedSyllable => true
  | .openSyllable, .vowel | .openSyllable, .syllableTail => true
  | .vowel, .vowel | .vowel, .syllableTail => true
  | .closedSyllable, .syllableTail | .syllableTail, .syllableTail => true
  | _, .consonant => b.linked
  | _, .pictograph => b.joined
  | _, .flag => b.halfFlag
  | _, _ => false

end Before

def clustersFrom (b : Before) : List Char → List (List Char)
  | [] => []
  | c :: cs =>
    match cs, clustersFrom (b.push c) cs with
    | d :: _, k :: ks =>
      if (b.push c).joins (Role.ofChar d) then (c :: k) :: ks else [c] :: k :: ks
    | _, ks => [c] :: ks

def clusters (cs : List Char) : List (List Char) :=
  clustersFrom .start cs

end QueryText.Text.Cluster
