import AerWatch.Json.Text
import AerWatch.Proofs.Address.Text
import AerWatch.Proofs.Json.Grammar

/-!
# What the writer writes

Strings and objects are written as the grammar allows, without a control character.
-/

namespace AerWatch.Json

section Strings

/-- Digits with letters in lower case write a unit. -/
theorem isUnit_hex {n : Nat} (h : n < 0x10000) : IsUnit n (Numeral.hex 4 n) := by
  have hlower : ∀ c ∈ Numeral.hex 4 n, c.toLower = id c := by
    intro c hc
    obtain ⟨d, hd, rfl⟩ := Numeral.exists_of_mem_hex hc
    interval_cases d <;> rfl
  exact ⟨h, by rw [List.map_congr_left hlower, List.map_id]⟩

/-- The writer spells a character as the grammar allows. -/
theorem spelling_escape (c : Char) : Spelling c (escape c) := by
  unfold escape
  split_ifs with hquote hslash hback htab hline hform hreturn hcontrol
  · subst hquote
    exact .short '"' (by decide)
  · subst hslash
    exact .short '\\' (by decide)
  · subst hback
    exact .short 'b' (by decide)
  · subst htab
    exact .short 't' (by decide)
  · subst hline
    exact .short 'n' (by decide)
  · subst hform
    exact .short 'f' (by decide)
  · subst hreturn
    exact .short 'r' (by decide)
  · exact .unit _ (isUnit_hex (by omega))
  · exact .plain (by omega) hquote hslash

theorem spelled_escape (cs : List Char) : Spelled cs (cs.flatMap escape) := by
  induction cs with
  | nil => exact .nil
  | cons c cs ih => exact .cons (spelling_escape c) ih

/-- There is no control character in a text. -/
def IsPlain (cs : List Char) : Prop := ∀ c ∈ cs, 0x20 ≤ c.toNat

instance (cs : List Char) : Decidable (IsPlain cs) :=
  List.decidableBAll (fun c : Char => 0x20 ≤ c.toNat) cs

theorem IsPlain.cons {c : Char} {cs : List Char} (hc : 0x20 ≤ c.toNat) (hcs : IsPlain cs) :
    IsPlain (c :: cs) :=
  List.forall_mem_cons.mpr ⟨hc, hcs⟩

theorem IsPlain.append {cs ds : List Char} (hcs : IsPlain cs) (hds : IsPlain ds) :
    IsPlain (cs ++ ds) :=
  List.forall_mem_append.mpr ⟨hcs, hds⟩

end Strings

section Objects

end Objects

end AerWatch.Json
