import MindLeak.Library.Runs
import Mathlib.Data.List.Induction

/-! Unix-style path globs with literal separators: how a pattern reads, and what
its tokens match. `?`, `*` and classes stay inside one path segment; `**`
crosses segments beside a separator and is two stars elsewhere. -/

namespace MindLeak.Glob

open List

inductive Token where
  | literal (c : Char)
  | any
  | zeroOrMore
  /-- A leading `**` and its separator. -/
  | recursivePrefix
  /-- A trailing separator and its `**`. -/
  | recursiveSuffix
  /-- A `**` with the separators on both sides. -/
  | recursiveZeroOrMore
  | charClass (negated : Bool) (ranges : List (Char × Char))
  | alternates (branches : List (List Token))

def spread (passes : Char → Bool) (rest : List Char → Bool) : List Char → Bool
  | [] => rest []
  | c :: text => rest (c :: text) || (passes c && spread passes rest text)

def afterSeparator (rest : List Char → Bool) : List Char → Bool
  | [] => false
  | c :: text => (decide (c = '/') && rest text) || afterSeparator rest text

def one (admits : Char → Bool) (rest : List Char → Bool) : List Char → Bool
  | [] => false
  | c :: text => admits c && rest text

def notSeparator (c : Char) : Bool := decide (c ≠ '/')

def inRanges (ranges : List (Char × Char)) (c : Char) : Bool := ranges.any fun range => decide (range.1 ≤ c ∧ c ≤ range.2)

mutual

def matchToken : Token → (List Char → Bool) → List Char → Bool
  | .literal expected, rest => one (fun c => decide (c = expected)) rest
  | .any, rest => one notSeparator rest
  | .zeroOrMore, rest => spread notSeparator rest
  | .recursivePrefix, rest => fun text => rest text || afterSeparator rest text
  | .recursiveSuffix, rest => one (fun c => decide (c = '/')) (spread (fun _ => true) rest)
  | .recursiveZeroOrMore, rest => one (fun c => decide (c = '/')) fun text => rest text || afterSeparator rest text
  | .charClass negated ranges, rest => one (fun c => notSeparator c && (inRanges ranges c != negated)) rest
  -- A group whose branches were all empty matches the empty text.
  | .alternates branches, rest => fun text => (branches.isEmpty && rest text) || matchAny branches rest text

def matchAll : List Token → (List Char → Bool) → List Char → Bool
  | [], rest => rest
  | token :: tokens, rest => matchToken token (matchAll tokens rest)

def matchAny : List (List Token) → (List Char → Bool) → List Char → Bool
  | [], _ => fun _ => false
  | branch :: branches, rest => fun text => matchAll branch rest text || matchAny branches rest text

end

/-- The whole text; `**` alone matches everything. -/
def accepts (tokens : List Token) (text : List Char) : Bool :=
  match tokens with
  | [.recursivePrefix] => true
  | tokens => matchAll tokens List.isEmpty text

structure ClassReader where
  negated : Bool
  ranges : List (Char × Char) := []
  first : Bool := true
  inRange : Bool := false

inductive Mode where
  | plain | escape | star | twoStars
  /-- Just behind an opening bracket. -/
  | opened
  | inClass (reader : ClassReader)

structure Group where
  done : List (List Token)
  outer : List Token

structure Reader where
  groups : List Group := []
  tokens : List Token := []
  mode : Mode := .plain

def isVoid (branch : List Token) : Bool :=
  branch.all fun
    | .alternates [] => true
    | _ => false

namespace Reader

def push (r : Reader) (token : Token) : Reader := { r with tokens := token :: r.tokens, mode := .plain }

def plain (r : Reader) (c : Char) : Option Reader :=
  if c = '?' then some (r.push .any)
  else if c = '*' then some { r with mode := .star }
  else if c = '[' then some { r with mode := .opened }
  else if c = '\\' then some { r with mode := .escape }
  else if c = '{' then some ⟨⟨[], r.tokens⟩ :: r.groups, [], .plain⟩
  else if c = '}' then
    match r.groups with
    | [] => none
    | group :: groups =>
      some ⟨groups,
        .alternates ((group.done ++ [r.tokens.reverse]).filter fun branch => !isVoid branch) :: group.outer, .plain⟩
  else if c = ',' then
    match r.groups with
    | [] => some (r.push (.literal c))
    | group :: groups => some ⟨⟨group.done ++ [r.tokens.reverse], group.outer⟩ :: groups, [], .plain⟩
  else some (r.push (.literal c))

/-- Two stars beside a separator take it along; `none` where there is none. -/
def absorb (r : Reader) (whole : Token) : Option Reader :=
  match r.tokens with
  | .literal c :: tokens => if c = '/' then some { r with tokens := whole :: tokens, mode := .plain } else none
  | .recursiveZeroOrMore :: tokens => some { r with tokens := whole :: tokens, mode := .plain }
  | .recursivePrefix :: _ => some { r with mode := .plain }
  | _ => none

def twoStars (r : Reader) : Reader := (r.push .zeroOrMore).push .zeroOrMore

def afterTwoStars (r : Reader) (c : Char) : Option Reader :=
  if c = '/' then
    if r.tokens.isEmpty then some (r.push .recursivePrefix)
    else match r.absorb .recursiveZeroOrMore with
      | some r => some r
      | none => r.twoStars.plain c
  else if !r.groups.isEmpty && (decide (c = ',') || decide (c = '}')) then
    ((r.absorb .recursiveSuffix).getD r.twoStars).plain c
  else r.twoStars.plain c

def widen (ranges : List (Char × Char)) (upper : Char) : Option (List (Char × Char)) :=
  match ranges.reverse with
  | [] => none
  | (lower, _) :: before => if lower ≤ upper then some (((lower, upper) :: before).reverse) else none

def classStep (r : Reader) (reader : ClassReader) (c : Char) : Option Reader :=
  if c = ']' && !reader.first then
    some (r.push (.charClass reader.negated (reader.ranges ++ if reader.inRange then [('-', '-')] else [])))
  else if c = '-' && !reader.first && !reader.inRange then
    some { r with mode := .inClass { reader with inRange := true } }
  else if reader.inRange then
    (widen reader.ranges c).map fun ranges =>
      { r with mode := .inClass { reader with ranges, first := false, inRange := false } }
  else some { r with mode := .inClass { reader with ranges := reader.ranges ++ [(c, c)], first := false } }

def step (r : Reader) (c : Char) : Option Reader :=
  match r.mode with
  | .plain => r.plain c
  | .escape => some (r.push (.literal c))
  | .star => if c = '*' then some { r with mode := .twoStars } else (r.push .zeroOrMore).plain c
  | .twoStars => r.afterTwoStars c
  | .opened =>
    if c = '!' || c = '^' then some { r with mode := .inClass { negated := true } }
    else r.classStep { negated := false } c
  | .inClass reader => r.classStep reader c

def finish (r : Reader) : Option (List Token) :=
  if r.groups.isEmpty then
    match r.mode with
    | .plain => some r.tokens.reverse
    | .star => some (r.push .zeroOrMore).tokens.reverse
    | .twoStars =>
      if r.tokens.isEmpty then some [.recursivePrefix]
      else some ((r.absorb .recursiveSuffix).getD r.twoStars).tokens.reverse
    | _ => none
  else none

end Reader

def readFrom (r : Reader) (pattern : List Char) : Option (List Token) := (pattern.foldlM Reader.step r).bind Reader.finish

def read (pattern : List Char) : Option (List Token) := readFrom {} pattern

def isMatch (pattern text : List Char) : Bool := (read pattern).any fun tokens => accepts tokens text

example : isMatch "src/*.rs".toList "src/a.rs".toList = true := by decide +kernel
example : isMatch "src/*.rs".toList "src/a/b.rs".toList = false := by decide +kernel
example : isMatch "src/**/b.rs".toList "src/b.rs".toList = true := by decide +kernel
example : isMatch "{src,docs/**}".toList "docs/a/b".toList = true := by decide +kernel
example : isMatch "[!a-c]x".toList "dx".toList = true := by decide +kernel

/-! What tokens match, they match within their load, however the text goes on. -/

mutual

def load : Token → Nat
  | .zeroOrMore | .recursivePrefix => 0
  | .alternates branches => loadAny branches
  | _ => 1

def loadAll : List Token → Nat
  | [] => 0
  | token :: tokens => load token + loadAll tokens

def loadAny : List (List Token) → Nat
  | [] => 0
  | branch :: branches => loadAll branch + loadAny branches

end

/-- A recogniser that matches something matches a short text, whatever follows it. -/
structure Shortens (recognises : (List Char → Bool) → List Char → Bool) (bound : Nat) : Prop where
  reaches : ∀ {rest text}, recognises rest text = true → ∃ later, later <:+ text ∧ rest later = true
  short : ∀ {rest text}, recognises rest text = true →
    ∃ used : List Char, used.length ≤ bound ∧
      ∀ rest text, rest text = true → recognises rest (used ++ text) = true

section
variable {recognises later : (List Char → Bool) → List Char → Bool} {bound first second : Nat}

theorem Shortens.mono (short : Shortens recognises first) (within : first ≤ second) : Shortens recognises second where
  reaches := short.reaches
  short matched := by
    obtain ⟨used, few, takes⟩ := short.short matched
    exact ⟨used, Nat.le_trans few within, takes⟩

theorem Shortens.comp (left : Shortens recognises first) (right : Shortens later second) :
    Shortens (fun rest => recognises (later rest)) (first + second) where
  reaches matched := by
    obtain ⟨_, inside, onward⟩ := left.reaches matched
    obtain ⟨later, inside', onward⟩ := right.reaches onward
    exact ⟨later, inside'.trans inside, onward⟩
  short matched := by
    obtain ⟨_, _, onward⟩ := left.reaches matched
    obtain ⟨used, few, takes⟩ := left.short matched
    obtain ⟨more, few', takes'⟩ := right.short onward
    refine ⟨used ++ more, by rw [length_append]; omega, fun rest text matches' => ?_⟩
    rw [append_assoc]
    exact takes _ _ (takes' _ _ matches')

theorem one_shortens (admits : Char → Bool) : Shortens (one admits) 1 where
  reaches := by
    intro rest text matched
    cases text with
    | nil => cases matched
    | cons c text =>
      rw [one, Bool.and_eq_true] at matched
      exact ⟨text, suffix_cons c text, matched.2⟩
  short := by
    intro rest text matched
    cases text with
    | nil => cases matched
    | cons c text =>
      rw [one, Bool.and_eq_true] at matched
      exact ⟨[c], Nat.le_refl _, fun rest text onward => by simp [one, matched.1, onward]⟩

theorem spread_here {passes : Char → Bool} {rest : List Char → Bool} {text : List Char} (matched : rest text = true) :
    spread passes rest text = true := by
  cases text with
  | nil => exact matched
  | cons c text => rw [spread, matched, Bool.true_or]

theorem spread_shortens (passes : Char → Bool) : Shortens (spread passes) 0 where
  reaches := by
    intro rest text matched
    induction text with
    | nil => exact ⟨[], suffix_rfl, matched⟩
    | cons c text ih =>
      rw [spread, Bool.or_eq_true, Bool.and_eq_true] at matched
      rcases matched with here | ⟨_, onward⟩
      · exact ⟨_, suffix_rfl, here⟩
      · obtain ⟨later, inside, found⟩ := ih onward
        exact ⟨later, inside.trans (suffix_cons c text), found⟩
  short _ := ⟨[], Nat.le_refl _, fun _ _ onward => spread_here onward⟩

theorem afterSeparator_reaches {rest : List Char → Bool} {text : List Char} (matched : afterSeparator rest text = true) :
    ∃ later, later <:+ text ∧ rest later = true := by
  induction text with
  | nil => cases matched
  | cons c text ih =>
    rw [afterSeparator, Bool.or_eq_true, Bool.and_eq_true] at matched
    rcases matched with ⟨_, here⟩ | onward
    · exact ⟨text, suffix_cons c text, here⟩
    · obtain ⟨later, inside, found⟩ := ih onward
      exact ⟨later, inside.trans (suffix_cons c text), found⟩

theorem segments_shortens : Shortens (fun rest text => rest text || afterSeparator rest text) 0 where
  reaches := by
    intro rest text matched
    rcases Bool.or_eq_true_iff.mp matched with here | onward
    · exact ⟨text, suffix_rfl, here⟩
    · exact afterSeparator_reaches onward
  short _ := ⟨[], Nat.le_refl _, fun rest text onward => by simp [onward]⟩

theorem Shortens.either (left : Shortens recognises first) (right : Shortens later second) :
    Shortens (fun rest text => recognises rest text || later rest text) (first + second) where
  reaches := by
    intro rest text matched
    rcases Bool.or_eq_true_iff.mp matched with here | there
    · exact left.reaches here
    · exact right.reaches there
  short := by
    intro rest text matched
    rcases Bool.or_eq_true_iff.mp matched with here | there
    · obtain ⟨used, few, takes⟩ := left.short here
      exact ⟨used, by omega, fun rest text onward => by rw [takes rest text onward, Bool.true_or]⟩
    · obtain ⟨used, few, takes⟩ := right.short there
      exact ⟨used, by omega, fun rest text onward => by rw [takes rest text onward, Bool.or_true]⟩

theorem nothing_shortens : Shortens (fun _ _ => false) 0 where
  reaches matched := by cases matched
  short matched := by cases matched

theorem given_shortens (given : Bool) : Shortens (fun rest text => given && rest text) 0 where
  reaches := by
    intro rest text matched
    exact ⟨text, suffix_rfl, (Bool.and_eq_true_iff.mp matched).2⟩
  short := by
    intro rest text matched
    refine ⟨[], Nat.le_refl _, fun rest text onward => ?_⟩
    rw [(Bool.and_eq_true_iff.mp matched).1, Bool.true_and]
    exact onward

end

mutual

theorem matchToken_shortens : ∀ token, Shortens (matchToken token) (load token)
  | .literal _ | .any | .charClass _ _ => one_shortens _
  | .zeroOrMore => spread_shortens _
  | .recursivePrefix => segments_shortens
  | .recursiveSuffix => (one_shortens _).comp (spread_shortens _)
  | .recursiveZeroOrMore => (one_shortens _).comp segments_shortens
  | .alternates branches =>
    ((given_shortens _).either (matchAny_shortens branches)).mono (by rw [load]; omega)

theorem matchAll_shortens : ∀ tokens, Shortens (matchAll tokens) (loadAll tokens)
  | [] => ⟨fun matched => ⟨_, suffix_rfl, matched⟩, fun _ => ⟨[], Nat.le_refl _, fun _ _ onward => onward⟩⟩
  | token :: tokens => (matchToken_shortens token).comp (matchAll_shortens tokens)

theorem matchAny_shortens : ∀ branches, Shortens (matchAny branches) (loadAny branches)
  | [] => nothing_shortens
  | branch :: branches => (matchAll_shortens branch).either (matchAny_shortens branches)

end

theorem matchAll_append (first second : List Token) (rest : List Char → Bool) :
    matchAll (first ++ second) rest = matchAll first (matchAll second rest) := by
  induction first with
  | nil => rfl
  | cons token first ih => rw [cons_append, matchAll, matchAll, ih]

theorem accepts_cases (tokens : List Token) :
    tokens = [.recursivePrefix] ∨ accepts tokens = matchAll tokens List.isEmpty := by
  unfold accepts
  by_cases whole : tokens = [.recursivePrefix]
  · exact .inl whole
  right
  funext text
  split
  next => exact absurd rfl whole
  next => rfl

theorem accepts_short {tokens : List Token} {text : List Char} (accepted : accepts tokens text = true) :
    ∃ used : List Char, used.length ≤ loadAll tokens ∧ accepts tokens used = true := by
  rcases accepts_cases tokens with rfl | matched
  · exact ⟨[], Nat.zero_le _, rfl⟩
  · rw [matched] at accepted ⊢
    obtain ⟨used, few, takes⟩ := (matchAll_shortens tokens).short accepted
    exact ⟨used, few, by simpa using takes List.isEmpty [] rfl⟩

/-! Characters that stand for one character. -/

/-- The characters that open something other than a single character. -/
def special (c : Char) : Bool := c ∈ ['*', '[', '\\', '{', '}']

def simple (pattern : List Char) : Bool := pattern.all fun c => !special c

def tokenOf (c : Char) : Token := if c = '?' then .any else .literal c

def fill (c : Char) (pattern : List Char) : List Char := pattern.map fun p => if p = '?' then c else p

theorem matchAll_fill {c : Char} (inside : c ≠ '/') (pattern : List Char) (rest : List Char → Bool) (text : List Char) :
    matchAll (pattern.map tokenOf) rest (fill c pattern ++ text) = rest text := by
  induction pattern with
  | nil => rfl
  | cons p pattern ih =>
    simp only [fill, map_cons, cons_append, matchAll] at ih ⊢
    by_cases any : p = '?'
    · simp [tokenOf, any, matchToken, one, notSeparator, inside, ih]
    · simp [tokenOf, any, matchToken, one, ih]

variable {pattern : List Char}

theorem fill_ne (member : '?' ∈ pattern) : fill 'a' pattern ≠ fill 'b' pattern := by
  induction pattern with
  | nil => cases member
  | cons p pattern ih =>
    intro same
    simp only [fill, map_cons, List.cons.injEq] at same ih
    rcases mem_cons.mp member with rfl | later
    · simp at same
    · exact ih later same.2

theorem fill_plain (plain : '?' ∉ pattern) (c : Char) : fill c pattern = pattern := by
  have same : ∀ p ∈ pattern, (if p = '?' then c else p) = p := by
    intro p member
    rw [if_neg]
    rintro rfl
    exact plain member
  exact (map_congr_left same).trans (map_id' pattern)

theorem fill_length (c : Char) (pattern : List Char) : (fill c pattern).length = pattern.length := length_map _

theorem matchAll_plain (plain : '?' ∉ pattern) (rest : List Char → Bool) (text : List Char) :
    matchAll (pattern.map tokenOf) rest text = true ↔ ∃ later, text = pattern ++ later ∧ rest later = true := by
  constructor
  · intro matched
    induction pattern generalizing text with
    | nil => exact ⟨text, rfl, matched⟩
    | cons p pattern ih =>
      rw [mem_cons, not_or] at plain
      cases text with
      | nil => simp [matchAll, tokenOf, Ne.symm plain.1, matchToken, one] at matched
      | cons c text =>
        simp only [map_cons, matchAll, tokenOf, if_neg (Ne.symm plain.1), matchToken, one, Bool.and_eq_true,
          decide_eq_true_eq] at matched
        obtain ⟨rfl, onward⟩ := matched
        obtain ⟨later, rfl, found⟩ := ih plain.2 _ onward
        exact ⟨later, rfl, found⟩
  · rintro ⟨later, rfl, found⟩
    rw [← found, ← matchAll_fill (c := 'a') (by decide) pattern rest later, fill_plain plain]

theorem spread_segment {text : List Char} (matched : spread notSeparator List.isEmpty text = true) : '/' ∉ text := by
  induction text with
  | nil => simp
  | cons c text ih =>
    simp only [spread, isEmpty_cons, Bool.false_or, Bool.and_eq_true, notSeparator, decide_eq_true_eq] at matched
    rw [mem_cons, not_or]
    exact ⟨Ne.symm matched.1, ih matched.2⟩

end MindLeak.Glob
