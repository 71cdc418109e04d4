import Mathlib
import MindLeak.Library.Glob

/-! What a pattern reads as, against its length: a pattern without special
characters reads as itself, every other one may match a text shorter than it. -/

namespace MindLeak.Glob

open List Option

variable {pattern : List Char} {tokens : List Token}

theorem loadAll_append (first second : List Token) : loadAll (first ++ second) = loadAll first + loadAll second := by
  induction first with
  | nil => simp [loadAll]
  | cons token first ih => rw [cons_append, loadAll, loadAll, ih, Nat.add_assoc]

@[simp] theorem loadAll_reverse (tokens : List Token) : loadAll tokens.reverse = loadAll tokens := by
  induction tokens with
  | nil => rfl
  | cons token tokens ih =>
    rw [reverse_cons, loadAll_append, ih, loadAll, loadAll, loadAll]
    omega

theorem loadAny_append (first second : List (List Token)) : loadAny (first ++ second) = loadAny first + loadAny second := by
  induction first with
  | nil => simp [loadAny]
  | cons branch first ih => rw [cons_append, loadAny, loadAny, ih, Nat.add_assoc]

theorem loadAny_filter (keep : List Token → Bool) (branches : List (List Token)) :
    loadAny (branches.filter keep) ≤ loadAny branches := by
  induction branches with
  | nil => exact Nat.le_refl _
  | cons branch branches ih =>
    rw [filter_cons, loadAny]
    split
    · rw [loadAny]
      omega
    · omega

def Group.load (group : Group) : Nat := loadAny group.done + loadAll group.outer

variable {c : Char}

namespace Reader
variable {r after : Reader}

def load (r : Reader) : Nat := loadAll r.tokens + (r.groups.map Group.load).sum

@[simp] theorem load_mode (r : Reader) (mode : Mode) : load { r with mode := mode } = r.load := rfl

@[simp] theorem load_push (r : Reader) (token : Token) : (r.push token).load = Glob.load token + r.load := by
  simp only [load, push, loadAll]
  omega

@[simp] theorem load_twoStars (r : Reader) : r.twoStars.load = r.load := by simp [twoStars, Glob.load]

theorem load_closed (done : List (List Token)) (branch : List Token) :
    Glob.load (.alternates ((done ++ [branch.reverse]).filter fun kept => !isVoid kept)) ≤ loadAny done + loadAll branch := by
  refine Nat.le_trans (loadAny_filter _ _) ?_
  simp [loadAny_append, loadAny]

theorem load_plain (read : r.plain c = some after) : after.load ≤ r.load + if special c then 0 else 1 := by
  unfold plain at read
  split at read
  next same =>
    cases read
    simp [same, special, Glob.load]
    omega
  split at read
  next => cases read; simp
  split at read
  next => cases read; simp
  split at read
  next => cases read; simp
  split at read
  next =>
    cases read
    simp [load, loadAll, loadAny, Group.load]
  split at read
  next =>
    split at read
    · cases read
    rename_i group groups stack
    cases read
    have closed := load_closed group.done r.tokens
    simp only [load, loadAll, stack, map_cons, sum_cons, Group.load]
    omega
  next question star bracket escape opens closes =>
    have ordinary : special c = false := by simp [special, star, bracket, escape, opens, closes]
    rw [ordinary]
    split at read
    next =>
      split at read
      · cases read; simp [Glob.load]; omega
      rename_i group groups stack
      cases read
      simp only [load, loadAll, stack, map_cons, sum_cons, Group.load, loadAny_append, loadAny, loadAll_reverse]
      omega
    next => cases read; simp [Glob.load]; omega

theorem load_absorb {whole : Token} (single : Glob.load whole = 1) (absorbed : r.absorb whole = some after) :
    after.load = r.load := by
  unfold absorb at absorbed
  split at absorbed
  next stack =>
    obtain ⟨_, absorbed⟩ := then_of_ne absorbed nofun
    cases absorbed
    simp [load, loadAll, stack, single, Glob.load]
  next stack =>
    cases absorbed
    simp [load, loadAll, stack, single, Glob.load]
  next => cases absorbed; rfl
  next => cases absorbed

theorem load_absorbed (r : Reader) : ((r.absorb .recursiveSuffix).getD r.twoStars).load = r.load := by
  cases absorbed : r.absorb .recursiveSuffix with
  | none => simp
  | some after => exact load_absorb rfl absorbed

theorem load_afterTwoStars (read : r.afterTwoStars c = some after) :
    after.load ≤ r.load + if special c then 0 else 1 := by
  unfold afterTwoStars at read
  split at read
  next =>
    split at read
    · cases read; simp [Glob.load]
    split at read
    next absorbed =>
      cases read
      have same := load_absorb rfl absorbed
      omega
    next => simpa using load_plain read
  next =>
    split at read
    next =>
      have bound := load_plain read
      rwa [load_absorbed] at bound
    next => simpa using load_plain read

theorem load_classStep {reader : ClassReader} (read : r.classStep reader c = some after) :
    after.load ≤ r.load + if special c then 0 else 1 := by
  unfold classStep at read
  split at read
  next closes =>
    cases read
    have same : c = ']' := by simpa using (Bool.and_eq_true_iff.mp closes).1
    simp [same, special, Glob.load]
    omega
  split at read
  next => cases read; simp
  split at read
  next =>
    obtain ⟨ranges, _, rfl⟩ := map_eq_some_iff.mp read
    simp
  next => cases read; simp

theorem step_cases (read : r.step c = some after) :
    (r.mode = .escape ∧ after = r.push (.literal c)) ∨ after.load ≤ r.load + if special c then 0 else 1 := by
  unfold step at read
  split at read
  next => exact .inr (load_plain read)
  next escaped =>
    cases read
    exact .inl ⟨escaped, rfl⟩
  next =>
    split at read
    next =>
      cases read
      exact .inr (Nat.le_add_right _ _)
    next => exact .inr (by simpa [Glob.load] using load_plain read)
  next => exact .inr (load_afterTwoStars read)
  next =>
    split at read
    next =>
      cases read
      exact .inr (Nat.le_add_right _ _)
    next => exact .inr (load_classStep read)
  next => exact .inr (load_classStep read)

theorem load_step (read : r.step c = some after) : after.load ≤ r.load + 1 := by
  rcases step_cases read with ⟨_, rfl⟩ | bound
  · rw [load_push, show Glob.load (.literal c) = 1 from rfl]
    omega
  · split at bound <;> omega

theorem mode_star (read : r.step '*' = some after) : after.mode ≠ .escape := by
  have ofPlain {r after : Reader} (read : r.plain '*' = some after) : after.mode ≠ .escape := by
    cases read
    exact Mode.noConfusion
  have ofClass {reader : ClassReader} (read : r.classStep reader '*' = some after) : after.mode ≠ .escape := by
    unfold classStep at read
    rw [if_neg (by simp), if_neg (by simp)] at read
    split at read
    next =>
      obtain ⟨ranges, _, rfl⟩ := map_eq_some_iff.mp read
      exact Mode.noConfusion
    next =>
      cases read
      exact Mode.noConfusion
  unfold step at read
  split at read
  next => exact ofPlain read
  next =>
    cases read
    exact Mode.noConfusion
  next =>
    cases read
    exact Mode.noConfusion
  next =>
    unfold afterTwoStars at read
    rw [if_neg (by decide), if_neg (by simp)] at read
    exact ofPlain read
  next =>
    rw [if_neg (by decide)] at read
    exact ofClass read
  next => exact ofClass read

theorem load_finish {tokens : List Token} (closed : r.finish = some tokens) : loadAll tokens ≤ r.load := by
  obtain ⟨_, closed⟩ := then_of_ne closed nofun
  split at closed
  next =>
    cases closed
    rw [loadAll_reverse]
    exact Nat.le_add_right _ _
  next =>
    cases closed
    rw [loadAll_reverse, push, loadAll, Glob.load, Nat.zero_add]
    exact Nat.le_add_right _ _
  next =>
    split at closed
    · cases closed; simp [loadAll, Glob.load]
    cases closed
    rw [loadAll_reverse, ← load_absorbed r]
    exact Nat.le_add_right _ _
  next => cases closed

end Reader

/-! A pattern read to its end either has no special character or may match a
text shorter than itself. -/

def direct (pattern : List Char) : Reader := { tokens := (pattern.map tokenOf).reverse }

theorem step_direct {c : Char} (ordinary : special c = false) :
    (direct pattern).step c = some (direct (pattern ++ [c])) := by
  simp only [special, decide_eq_false_iff_not, mem_cons, not_mem_nil, or_false, not_or] at ordinary
  obtain ⟨star, bracket, escape, opens, closes⟩ := ordinary
  simp only [direct, Reader.step, Reader.plain, if_neg star, if_neg bracket, if_neg escape, if_neg opens, if_neg closes]
  by_cases question : c = '?'
  · simp [question, Reader.push, tokenOf]
  · simp [question, Reader.push, tokenOf]

theorem scan_direct (ordinary : simple pattern) (before : List Char) :
    pattern.foldlM Reader.step (direct before) = some (direct (before ++ pattern)) := by
  induction pattern generalizing before with
  | nil => simp
  | cons c pattern ih =>
    simp only [simple, all_cons, Bool.and_eq_true, Bool.not_eq_true'] at ordinary ih
    rw [foldlM_cons, step_direct ordinary.1, bind_eq_bind, bind_some, ih ordinary.2, append_assoc,
      singleton_append]

theorem load_direct (pattern : List Char) : (direct pattern).load = pattern.length := by
  have single : loadAll (pattern.map tokenOf) = pattern.length := by
    induction pattern with
    | nil => rfl
    | cons c pattern ih =>
      rw [map_cons, loadAll, ih, length_cons, tokenOf]
      split <;> exact Nat.add_comm 1 _
  simp [direct, Reader.load, single]

theorem scan {r : Reader} (read : pattern.foldlM Reader.step {} = some r) :
    (simple pattern ∧ r = direct pattern) ∨ r.load < pattern.length := by
  induction pattern using List.reverseRecOn generalizing r with
  | nil =>
    cases read
    exact .inl ⟨rfl, rfl⟩
  | append_singleton pattern c ih =>
    rw [foldlM_append, bind_eq_bind, bind_eq_some_iff] at read
    obtain ⟨before, seen, step⟩ := read
    rw [foldlM_cons, bind_eq_bind, bind_eq_some_iff] at step
    obtain ⟨_, step, done⟩ := step
    cases done
    rw [length_append, length_singleton]
    rcases ih seen with ⟨ordinary, rfl⟩ | less
    · by_cases opens : special c
      · right
        have bound := Reader.load_plain step
        rw [load_direct, if_pos opens] at bound
        omega
      · left
        rw [Bool.not_eq_true] at opens
        rw [step_direct opens] at step
        cases step
        exact ⟨by simp [simple, opens] at ordinary ⊢; exact ordinary, rfl⟩
    · have bound := Reader.load_step step
      omega

theorem read_short (reads : read pattern = some tokens) :
    (simple pattern ∧ tokens = pattern.map tokenOf) ∨ loadAll tokens < pattern.length := by
  obtain ⟨r, scanned, closed⟩ := bind_eq_some_iff.mp reads
  rcases scan scanned with ⟨ordinary, rfl⟩ | less
  · left
    cases closed
    exact ⟨ordinary, reverse_reverse _⟩
  · exact .inr (Nat.lt_of_le_of_lt (Reader.load_finish closed) less)

theorem read_simple (ordinary : simple pattern) : read pattern = some (pattern.map tokenOf) := by
  unfold read readFrom
  rw [show ({} : Reader) = direct [] from rfl, scan_direct ordinary, bind_some, nil_append]
  simp [Reader.finish, direct]

inductive Trailing : List Char → List Token → Prop
  | everything : Trailing [] [.recursivePrefix]
  | entries (front : List Char) : Trailing (front ++ ['/']) (front.map tokenOf ++ [Token.recursiveSuffix])
  | segment (front : List Char) (last : Char) (inside : last ≠ '/') :
    Trailing (front ++ [last]) ((front ++ [last]).map tokenOf ++ [Token.zeroOrMore, .zeroOrMore])

theorem finish_trailing :
    Reader.finish { direct pattern with mode := .twoStars } = some tokens ↔ Trailing pattern tokens := by
  constructor
  · intro closed
    rcases eq_nil_or_concat pattern with rfl | ⟨front, last, rfl⟩
    · cases closed
      exact .everything
    · rw [concat_eq_append] at closed ⊢
      by_cases slash : last = '/'
      · subst slash
        simp [Reader.finish, direct, Reader.absorb, tokenOf] at closed
        exact closed ▸ .entries front
      · by_cases question : last = '?'
        · simp [Reader.finish, direct, Reader.absorb, Reader.twoStars, Reader.push, tokenOf, question] at closed
          rw [← closed]
          simpa [tokenOf, question] using Trailing.segment front last slash
        · simp [Reader.finish, direct, Reader.absorb, Reader.twoStars, Reader.push, tokenOf, question, slash] at closed
          rw [← closed]
          simpa [tokenOf, question] using Trailing.segment front last slash
  · rintro (_ | front | ⟨front, last, inside⟩)
    · rfl
    · simp [Reader.finish, direct, Reader.absorb, tokenOf]
    · by_cases question : last = '?' <;>
        simp [Reader.finish, direct, Reader.absorb, Reader.twoStars, Reader.push, tokenOf, question, inside]

/-- A pattern ending in two stars may match a text shorter than what stands
before them, unless that is simple or escapes the first. -/
theorem read_stars (reads : read (pattern ++ ['*', '*']) = some tokens) :
    (simple pattern ∧ Trailing pattern tokens) ∨ loadAll tokens < pattern.length ∨
      ∃ before, tokens = before ++ [Token.literal '*', .zeroOrMore] := by
  obtain ⟨r, scanned, closed⟩ := bind_eq_some_iff.mp reads
  rw [foldlM_append, bind_eq_bind] at scanned
  obtain ⟨start, before, scanned⟩ := bind_eq_some_iff.mp scanned
  obtain ⟨first, one, scanned⟩ := bind_eq_some_iff.mp scanned
  obtain ⟨second, two, done⟩ := bind_eq_some_iff.mp scanned
  obtain rfl : second = r := Option.some.inj done
  have shared : special '*' = true := by decide
  have later : second.load ≤ first.load := by
    rcases Reader.step_cases two with ⟨escaped, _⟩ | bound
    · exact absurd escaped (Reader.mode_star one)
    · rwa [shared] at bound
  have bounded := Reader.load_finish closed
  rcases scan before with ⟨ordinary, rfl⟩ | less
  · left
    cases one
    cases two
    exact ⟨ordinary, finish_trailing.mp closed⟩
  · right
    rcases Reader.step_cases one with ⟨_, rfl⟩ | bound
    · right
      cases two
      obtain ⟨_, closed⟩ := then_of_ne closed nofun
      cases closed
      exact ⟨start.tokens.reverse, by simp [Reader.push]⟩
    · left
      rw [shared, if_pos rfl] at bound
      omega

theorem read_trailing (ordinary : simple pattern) (trailing : Trailing pattern tokens) :
    read (pattern ++ ['*', '*']) = some tokens := by
  have scanned : (pattern ++ ['*', '*']).foldlM Reader.step {} = some { direct pattern with mode := .twoStars } := by
    rw [foldlM_append, show ({} : Reader) = direct [] from rfl, scan_direct ordinary, nil_append]
    rfl
  unfold read readFrom
  rw [scanned, bind_some]
  exact finish_trailing.mpr trailing

/-! What the simple readings accept. -/

section
variable {front text : List Char} {last : Char}

theorem accepts_plain (plain : '?' ∉ pattern) : accepts (pattern.map tokenOf) text = true ↔ text = pattern := by
  rcases accepts_cases (pattern.map tokenOf) with whole | matched
  · obtain ⟨p, rfl, same⟩ := map_eq_singleton_iff.mp whole
    unfold tokenOf at same
    split at same <;> cases same
  · rw [matched, matchAll_plain plain]
    simp

theorem accepts_entries (plain : '?' ∉ front) :
    accepts (front.map tokenOf ++ [Token.recursiveSuffix]) text = true ↔ ∃ rest, text = front ++ '/' :: rest := by
  have anything (text : List Char) : spread (fun _ => true) List.isEmpty text = true := by
    induction text with
    | nil => rfl
    | cons c text ih => simp [spread, ih]
  rcases accepts_cases (front.map tokenOf ++ [Token.recursiveSuffix]) with whole | matched
  · simp [append_eq_singleton_iff] at whole
  rw [matched, matchAll_append, matchAll_plain plain]
  constructor
  · rintro ⟨later, rfl, behind⟩
    cases later with
    | nil => cases behind
    | cons c later =>
      simp only [matchAll, matchToken, one, Bool.and_eq_true, decide_eq_true_eq] at behind
      exact ⟨later, by rw [behind.1]⟩
  · rintro ⟨rest, rfl⟩
    exact ⟨'/' :: rest, rfl, by simp [matchAll, matchToken, one, anything]⟩

theorem rejects_segment (plain : '?' ∉ front ++ [last]) :
    accepts ((front ++ [last]).map tokenOf ++ [Token.zeroOrMore, .zeroOrMore]) (front ++ [last] ++ ['/']) = false := by
  rcases accepts_cases ((front ++ [last]).map tokenOf ++ [Token.zeroOrMore, .zeroOrMore]) with whole | matched
  · have lengths := congrArg List.length whole
    simp at lengths
  · rw [matched, matchAll_append, Bool.eq_false_iff, ne_eq, matchAll_plain plain]
    rintro ⟨later, same, behind⟩
    rw [← append_cancel_left same] at behind
    cases behind

theorem rejects_separator (before : List Token) :
    accepts (before ++ [Token.literal '*', .zeroOrMore]) (text ++ ['/']) = false := by
  rcases accepts_cases (before ++ [Token.literal '*', .zeroOrMore]) with whole | matched
  · simp [append_eq_singleton_iff] at whole
  rw [matched, matchAll_append, Bool.eq_false_iff]
  intro accepted
  obtain ⟨later, inside, behind⟩ := (matchAll_shortens before).reaches accepted
  cases later with
  | nil => cases behind
  | cons c later =>
    simp only [matchAll, matchToken, one, Bool.and_eq_true, decide_eq_true_eq] at behind
    have absent := spread_segment behind.2
    have ends : (c :: later).getLast? = some '/' := by
      obtain ⟨front, same⟩ := inside
      have whole := congrArg List.getLast? same
      rw [List.getLast?_append, List.getLast?_concat, List.getLast?_cons] at whole
      rw [List.getLast?_cons]
      exact whole
    rcases mem_cons.mp (mem_of_getLast? ends) with star | inside
    · rw [behind.1] at star
      exact absurd star (by decide)
    · exact absent inside

theorem accepts_fill (inside : c ≠ '/') : accepts (pattern.map tokenOf) (fill c pattern) = true := by
  rcases accepts_cases (pattern.map tokenOf) with whole | matched
  · rw [whole]
    rfl
  · have filled := matchAll_fill inside pattern List.isEmpty []
    rw [append_nil] at filled
    rw [matched, filled]
    rfl

/-- A simple pattern with two stars behind it accepts what its characters stand for. -/
theorem Trailing.accepts_fill (inside : c ≠ '/') (trailing : Trailing pattern tokens) :
    accepts tokens (fill c pattern) = true := by
  have behind (pattern : List Char) (later : List Token) (text : List Char) (nonempty : later ≠ [.recursivePrefix])
      (empty : matchAll later List.isEmpty text = true) :
      accepts (pattern.map tokenOf ++ later) (fill c pattern ++ text) = true := by
    rcases accepts_cases (pattern.map tokenOf ++ later) with whole | matched
    · rw [whole]
      rfl
    · rw [matched, matchAll_append, matchAll_fill inside, empty]
  cases trailing with
  | everything => rfl
  | entries front =>
    have filled := behind front [.recursiveSuffix] ['/'] (by simp) (by decide)
    simpa [fill] using filled
  | segment front last _ =>
    have filled := behind (front ++ [last]) [.zeroOrMore, .zeroOrMore] [] (by simp) (by decide)
    simpa using filled

end

end MindLeak.Glob
