import Mathlib.Tactic.Common

/-! Encodings that end by themselves. Behind one of them comes whatever is written next,
so an injective encoding is not enough: equal texts must have equal beginnings. -/

namespace MindLeak

open List

universe u v w

variable {α : Type u} {β : Type v} {κ : Type w}

/-- What is encoded, and where it ends, can be read off any text that begins with it. -/
def Delimits (fits : α → Prop) (encode : α → List β) : Prop :=
  ∀ first second, fits first → fits second → ∀ rest rest',
    encode first ++ rest = encode second ++ rest' → first = second ∧ rest = rest'

namespace Delimits
variable {fits : α → Prop} {encode : α → List β}

theorem of_width (width : Nat) (wide : ∀ value, fits value → (encode value).length = width)
    (injective : ∀ first second, fits first → fits second → encode first = encode second → first = second) :
    Delimits fits encode := by
  intro first second fit fit' rest rest' same
  obtain ⟨one, behind⟩ := append_inj same (by rw [wide first fit, wide second fit'])
  exact ⟨injective first second fit fit' one, behind⟩

section
variable (delimits : Delimits fits encode)
include delimits

theorem comp {γ : Type u} {image : γ → α}
    (injective : ∀ first second, image first = image second → first = second) :
    Delimits (fun value => fits (image value)) fun value => encode (image value) := by
  intro first second fit fit' rest rest' same
  obtain ⟨one, behind⟩ := delimits _ _ fit fit' rest rest' same
  exact ⟨injective first second one, behind⟩

theorem weaken {fits' : α → Prop} (implies : ∀ value, fits' value → fits value) :
    Delimits fits' encode := by
  intro first second fit fit'
  exact delimits first second (implies first fit) (implies second fit')

theorem flatMap_append {first second : List α} (long : first.length = second.length)
    (fit : ∀ item ∈ first, fits item) (fit' : ∀ item ∈ second, fits item) {rest rest' : List β}
    (same : first.flatMap encode ++ rest = second.flatMap encode ++ rest') : first = second ∧ rest = rest' := by
  induction first generalizing second with
  | nil =>
    cases second with
    | nil => exact ⟨rfl, same⟩
    | cons => cases long
  | cons item items ih =>
    cases second with
    | nil => cases long
    | cons item' items' =>
      rw [flatMap_cons, flatMap_cons, append_assoc, append_assoc] at same
      obtain ⟨rfl, behind⟩ := delimits item item' (fit item mem_cons_self) (fit' item' mem_cons_self) _ _ same
      obtain ⟨rfl, last⟩ := ih (Nat.succ.inj long) (fun other member => fit other (mem_cons_of_mem _ member))
        (fun other member => fit' other (mem_cons_of_mem _ member)) behind
      exact ⟨rfl, last⟩

theorem counted {count : Nat → List β} {limit : Nat}
    (counts : Delimits (· < limit) count) :
    Delimits (fun items : List α => items.length < limit ∧ ∀ item ∈ items, fits item)
      fun items => count items.length ++ items.flatMap encode := by
  intro first second ⟨few, fit⟩ ⟨few', fit'⟩ rest rest' same
  rw [append_assoc, append_assoc] at same
  obtain ⟨long, behind⟩ := counts _ _ few few' _ _ same
  exact delimits.flatMap_append long fit fit' behind

end

theorem prefixed {count : Nat → List β} {limit : Nat} (counts : Delimits (· < limit) count) :
    Delimits (fun text : List β => text.length < limit) fun text => count text.length ++ text := by
  intro first second few few' rest rest' same
  rw [append_assoc, append_assoc] at same
  obtain ⟨long, behind⟩ := counts _ _ few few' _ _ same
  exact append_inj behind long

theorem terminated (stop : β) : Delimits (fun text : List β => stop ∉ text) fun text => text ++ [stop] := by
  intro first
  induction first with
  | nil =>
    intro second _ free' rest rest' same
    cases second with
    | nil => exact ⟨rfl, (List.cons.inj same).2⟩
    | cons sign signs =>
      obtain ⟨rfl, _⟩ := List.cons.inj same
      exact absurd mem_cons_self free'
  | cons sign signs ih =>
    intro second free free' rest rest' same
    cases second with
    | nil =>
      obtain ⟨rfl, _⟩ := List.cons.inj same
      exact absurd mem_cons_self free
    | cons sign' signs' =>
      obtain ⟨rfl, behind⟩ := List.cons.inj same
      obtain ⟨rfl, last⟩ := ih signs' (fun inside => free (mem_cons_of_mem _ inside))
        (fun inside => free' (mem_cons_of_mem _ inside)) rest rest' behind
      exact ⟨rfl, last⟩

end Delimits

/-- Item sequences in which the kind of each item is known from the items before it. -/
def Alike (kind : α → κ) : List α → List α → Prop
  | first :: firsts, second :: seconds => kind first = kind second ∧ (first = second → Alike kind firsts seconds)
  | _, _ => True

variable {first second : List α} {kind : α → κ}

theorem Alike.of_kinds (kinds : first.map kind = second.map kind) : Alike kind first second := by
  induction first generalizing second with
  | nil => trivial
  | cons item items ih =>
    cases second with
    | nil => trivial
    | cons item' items' =>
      obtain ⟨here, behind⟩ := List.cons.inj kinds
      exact ⟨here, fun _ => ih behind⟩

theorem Alike.of_kind {one : κ} (uniform : ∀ item ∈ first, kind item = one)
    (uniform' : ∀ item ∈ second, kind item = one) : Alike kind first second := by
  induction first generalizing second with
  | nil => trivial
  | cons item items ih =>
    cases second with
    | nil => trivial
    | cons item' items' =>
      obtain ⟨here, behind⟩ := forall_mem_cons.mp uniform
      obtain ⟨here', behind'⟩ := forall_mem_cons.mp uniform'
      exact ⟨here.trans here'.symm, fun _ => ih behind behind'⟩

theorem Alike.append {first second rest rest' : List α} (alike : Alike kind first second)
    (long : first.length = second.length) (behind : first = second → Alike kind rest rest') :
    Alike kind (first ++ rest) (second ++ rest') := by
  induction first generalizing second with
  | nil =>
    cases second with
    | nil => exact behind rfl
    | cons => cases long
  | cons item items ih =>
    cases second with
    | nil => cases long
    | cons item' items' =>
      refine ⟨alike.1, ?_⟩
      rintro rfl
      refine ih (alike.2 rfl) (Nat.succ.inj long) ?_
      rintro rfl
      exact behind rfl

/-- Sequences of items of several kinds are read off their text when each kind delimits itself
and the kinds are known from what came before. -/
theorem Alike.flatMap_injective {fits : α → Prop} {encode : α → List β}
    (delimits : ∀ one, Delimits (fun item => fits item ∧ kind item = one) encode) (nonempty : ∀ item, encode item ≠ [])
    (alike : Alike kind first second) (fit : ∀ item ∈ first, fits item)
    (fit' : ∀ item ∈ second, fits item) (same : first.flatMap encode = second.flatMap encode) : first = second := by
  induction first generalizing second with
  | nil =>
    cases second with
    | nil => rfl
    | cons item items =>
      exact absurd (append_eq_nil_iff.mp same.symm).1 (nonempty item)
  | cons item items ih =>
    cases second with
    | nil =>
      exact absurd (append_eq_nil_iff.mp same).1 (nonempty item)
    | cons item' items' =>
      obtain ⟨rfl, behind⟩ := delimits (kind item) item item' ⟨fit item mem_cons_self, rfl⟩
        ⟨fit' item' mem_cons_self, alike.1.symm⟩ _ _ same
      rw [ih (alike.2 rfl) (fun other member => fit other (mem_cons_of_mem _ member))
        (fun other member => fit' other (mem_cons_of_mem _ member)) behind]

theorem Delimits.flatMap_injective {fits : α → Prop} {encode : α → List β} (delimits : Delimits fits encode)
    (nonempty : ∀ item, encode item ≠ []) (fit : ∀ item ∈ first, fits item)
    (fit' : ∀ item ∈ second, fits item) (same : first.flatMap encode = second.flatMap encode) : first = second := by
  have alike : Alike (fun _ : α => ()) first second := .of_kind (fun _ _ => rfl) fun _ _ => rfl
  exact alike.flatMap_injective (fun _ => delimits.weaken fun _ fitting => fitting.1) nonempty fit fit' same

end MindLeak
