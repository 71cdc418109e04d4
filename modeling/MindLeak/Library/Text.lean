import Mathlib.Data.List.Basic
import Mathlib.Data.List.TakeWhile

/-! The string operations a store's guards use, over characters so that they
evaluate. -/

namespace MindLeak.Text

open List Option String

def isWhitespace (c : Char) : Bool :=
  let n := c.toNat
  (0x09 ≤ n && n ≤ 0x0D) || n == 0x20 || n == 0x85 || n == 0xA0 || n == 0x1680 ||
    (0x2000 ≤ n && n ≤ 0x200A) || n == 0x2028 || n == 0x2029 || n == 0x202F || n == 0x205F || n == 0x3000

@[irreducible] def trim (text : String) : String :=
  String.ofList (((text.toList.dropWhile isWhitespace).reverse.dropWhile isWhitespace).reverse)

def isBlank (text : String) : Bool := text.toList.all isWhitespace

def stripListPrefix? : List Char → List Char → Option (List Char)
  | [], rest => some rest
  | _ :: _, [] => none
  | expected :: lead, actual :: rest => if expected = actual then stripListPrefix? lead rest else none

def stripPrefix? (lead text : String) : Option String :=
  (stripListPrefix? lead.toList text.toList).map String.ofList

def startsWith (text lead : String) : Bool := (stripListPrefix? lead.toList text.toList).isSome

def stripSuffix? (tail text : String) : Option String :=
  (stripListPrefix? tail.toList.reverse text.toList.reverse).map fun rest => String.ofList rest.reverse

def splitOnceList (separator : Char) : List Char → Option (List Char × List Char)
  | [] => none
  | c :: rest =>
    if c = separator then some ([], rest)
    else (splitOnceList separator rest).map fun (before, after) => (c :: before, after)

def splitOnce (separator : Char) (text : String) : Option (String × String) :=
  (splitOnceList separator text.toList).map fun (before, after) => (String.ofList before, String.ofList after)

def asciiLower (text : String) : String := String.ofList (text.toList.map Char.toLower)

def eqIgnoreAsciiCase (left right : String) : Bool := decide (asciiLower left = asciiLower right)

def isAsciiHexDigit (c : Char) : Bool :=
  c.isDigit || ('a' ≤ c && c ≤ 'f') || ('A' ≤ c && c ≤ 'F')

def likePrefix (text lead : String) : Bool := startsWith (asciiLower text) (asciiLower lead)

section
variable {separator : Char} {lead text rest : List Char}

theorem stripListPrefix?_separated (outside : separator ∉ lead) :
    stripListPrefix? lead (text ++ separator :: rest) =
      (stripListPrefix? lead text).map fun bare => bare ++ separator :: rest := by
  induction lead generalizing text with
  | nil => cases text <;> rfl
  | cons expected lead ih =>
    rw [mem_cons, not_or] at outside
    cases text with
    | nil => simp [stripListPrefix?, Ne.symm outside.1]
    | cons actual text =>
      rw [cons_append, stripListPrefix?, stripListPrefix?]
      split
      · exact ih outside.2
      · rfl

theorem stripListPrefix?_append (lead text : List Char) : stripListPrefix? lead (lead ++ text) = some text := by
  induction lead with
  | nil => cases text <;> rfl
  | cons expected lead ih => rw [cons_append, stripListPrefix?, if_pos rfl, ih]

theorem splitOnceList_before (separator : Char) (text : List Char) :
    ((splitOnceList separator text).map Prod.fst).getD text = text.takeWhile fun c => decide (c ≠ separator) := by
  induction text with
  | nil => rfl
  | cons c text ih =>
    rw [splitOnceList, takeWhile_cons]
    by_cases here : c = separator
    · simp [here]
    · rw [if_neg here, if_pos (decide_eq_true here), ← ih]
      cases splitOnceList separator text <;> rfl

theorem takeWhile_separated : (text ++ separator :: rest).takeWhile (fun c => decide (c ≠ separator)) =
    text.takeWhile fun c => decide (c ≠ separator) := by
  induction text with
  | nil => simp
  | cons c text ih => rw [cons_append, takeWhile_cons, takeWhile_cons, ih]

theorem splitOnceList_eq_some {before after : List Char} :
    splitOnceList separator text = some (before, after) ↔ text = before ++ separator :: after ∧ separator ∉ before := by
  induction text generalizing before with
  | nil => simp [splitOnceList]
  | cons c text ih =>
    rw [splitOnceList]
    by_cases here : c = separator
    · rw [if_pos here]
      cases before with
      | nil => simp [here, eq_comm]
      | cons first before =>
        simp only [Option.some.injEq, Prod.mk.injEq, cons_append, List.cons.injEq, mem_cons, here]
        constructor
        · rintro ⟨none, _⟩
          cases none
        · rintro ⟨⟨rfl, _⟩, clear⟩
          exact absurd (.inl rfl) clear
    · rw [if_neg here, map_eq_some_iff]
      cases before with
      | nil => simp [here]
      | cons first before =>
        simp only [Prod.exists, Prod.mk.injEq, List.cons.injEq, cons_append, mem_cons, not_or]
        constructor
        · rintro ⟨before', after', found, ⟨rfl, rfl⟩, rfl⟩
          exact ⟨⟨rfl, (ih.mp found).1⟩, Ne.symm here, (ih.mp found).2⟩
        · rintro ⟨⟨rfl, same⟩, _, clear⟩
          exact ⟨before, after, ih.mpr ⟨same, clear⟩, ⟨rfl, rfl⟩, rfl⟩

end

theorem splitOnce_eq_some {separator : Char} {text before after : String} : splitOnce separator text = some (before, after) ↔
    text.toList = before.toList ++ separator :: after.toList ∧ separator ∉ before.toList := by
  rw [splitOnce, map_eq_some_iff]
  constructor
  · rintro ⟨⟨first, rest⟩, found, same⟩
    cases same
    rw [toList_ofList, toList_ofList]
    exact splitOnceList_eq_some.mp found
  · intro split
    exact ⟨(before.toList, after.toList), splitOnceList_eq_some.mpr split, congrArg₂ Prod.mk ofList_toList ofList_toList⟩

theorem stripListPrefix?_eq_some {lead text rest : List Char} :
    stripListPrefix? lead text = some rest ↔ text = lead ++ rest := by
  constructor
  · intro found
    induction lead generalizing text with
    | nil => cases text <;> exact Option.some.inj found
    | cons expected lead ih =>
      cases text with
      | nil => cases found
      | cons actual text =>
        rw [stripListPrefix?] at found
        split at found
        on_goal 2 => cases found
        rename_i same
        rw [same, ih found, cons_append]
  · rintro rfl
    exact stripListPrefix?_append lead rest

theorem startsWith_iff {text lead : String} : startsWith text lead = true ↔ ∃ rest, text.toList = lead.toList ++ rest := by
  rw [startsWith, isSome_iff_exists]
  simp only [stripListPrefix?_eq_some]

theorem startsWith_append (lead rest : String) : startsWith (lead ++ rest) lead = true :=
  startsWith_iff.mpr ⟨rest.toList, toList_append⟩

theorem startsWith_apart {lead other : String} (rest : String)
    (apart : (lead.toList.zip other.toList).any (fun pair => decide (pair.1 ≠ pair.2)) = true) :
    startsWith (lead ++ rest) other = false := by
  rw [← Bool.not_eq_true, startsWith_iff, toList_append]
  generalize lead.toList = first, other.toList = second at apart
  rintro ⟨tail, same⟩
  induction first generalizing second with
  | nil => cases apart
  | cons one first ih =>
    cases second with
    | nil => cases apart
    | cons two second =>
      rw [cons_append, cons_append, List.cons.injEq] at same
      rw [zip_cons_cons, any_cons, decide_eq_false (not_not_intro same.1), Bool.false_or] at apart
      exact ih second apart same.2

theorem stripPrefix?_eq_some {lead text rest : String} :
    stripPrefix? lead text = some rest ↔ text.toList = lead.toList ++ rest.toList := by
  rw [stripPrefix?, map_eq_some_iff]
  constructor
  · rintro ⟨rest, found, rfl⟩
    rw [stripListPrefix?_eq_some.mp found, toList_ofList]
  · intro same
    exact ⟨rest.toList, stripListPrefix?_eq_some.mpr same, ofList_toList⟩

theorem stripSuffix?_eq_some {tail text front : String} :
    stripSuffix? tail text = some front ↔ text.toList = front.toList ++ tail.toList := by
  rw [stripSuffix?, map_eq_some_iff]
  constructor
  · rintro ⟨rest, found, rfl⟩
    rw [toList_ofList, ← reverse_inj, stripListPrefix?_eq_some.mp found]
    simp
  · intro same
    refine ⟨front.toList.reverse, stripListPrefix?_eq_some.mpr (by rw [same, reverse_append]), ?_⟩
    rw [reverse_reverse, ofList_toList]

theorem append_ne_append {first second tail other : String} {one two : Char} (ends : tail.toList.getLast? = some one)
    (others : other.toList.getLast? = some two) (apart : one ≠ two) : first ++ tail ≠ second ++ other := by
  intro same
  have last := congrArg (fun text => text.toList.getLast?) same
  simp only [toList_append, List.getLast?_append, ends, others, some_or, Option.some.injEq] at last
  exact apart last

end MindLeak.Text
