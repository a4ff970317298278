import RuleSets.Network
import RuleSets.Proofs.Network.Address
import RuleSets.Proofs.Text.Trim

/-!
# Networks read back

A written network is read back (`parse?_toText`), so different networks are written differently.
-/

namespace RuleSets.Network

open Text

variable {m n : Network}

theorem ofNat_value (a : Address) : Address.ofNat a.family a.value = a := by
  simp only [Address.ofNat, Nat.mod_eq_of_lt a.value_lt]

theorem read?_toText (a : Address) (len : Nat) :
    Address.read? .network a.family (a.toText ++ '/' :: decimal len) =
      some (a, '/' :: decimal len) := by
  have hends : EndsDigits 10 ('/' :: decimal len) := by
    rintro c ⟨⟩
    decide
  obtain ⟨f, v, hv⟩ := a
  have ha := ofNat_value ⟨f, v, hv⟩
  cases f with
  | v4 =>
    show (Address.readV4? .network (Address.dotted v ++ '/' :: decimal len)).map _ = _
    rw [Address.readV4?_dotted hv hends]
    exact congrArg (fun a => some (a, _)) ha
  | v6 =>
    show (Address.readV6? .network (Address.coloned v ++ '/' :: decimal len)).map _ = _
    rw [Address.readV6?_coloned hv]
    exact congrArg (fun a => some (a, _)) ha

theorem parseFamily?_toText (n : Network) : parseFamily? n.family n.toText = some n := by
  have hread : readNumeral? 10 (lengthDigits n.family) (n.family.width + 1) (decimal n.length) =
      some (n.length, []) := by
    have hle : n.length ≤ n.family.width := n.length_le
    have hdigits : n.family.width < 10 ^ lengthDigits n.family := by
      cases n.family <;> decide
    have hpos : 0 < lengthDigits n.family := by
      cases n.family <;> decide
    rw [← List.append_nil (decimal n.length)]
    exact readNumeral?_numeral (by decide) (by decide) (by omega) hpos (by omega) (by rintro c ⟨⟩)
  have htext : n.toText = n.address.toText ++ '/' :: decimal n.length := by
    rw [toText, List.append_assoc]
    rfl
  rw [htext]
  show parseFamily? n.address.family _ = _
  rw [parseFamily?, read?_toText]
  simp only [family] at hread
  simp only [hread]
  exact dif_pos n.length_le

/-- A written network is no network of the family before its own. -/
theorem parseSlash?_toText (n : Network) : parseSlash? n.toText = some n := by
  have hparse := parseFamily?_toText n
  rw [parseSlash?]
  cases hf : n.family with
  | v4 =>
    rw [hf] at hparse
    rw [hparse]
    rfl
  | v6 =>
    rw [hf] at hparse
    have hv4 : parseFamily? .v4 n.toText = none := by
      have htext : n.toText = Address.coloned n.address.value ++ '/' :: decimal n.length := by
        rw [toText, Address.toText, show n.address.family = .v6 from hf, List.append_assoc]
        rfl
      have hread : Address.read? .network .v4 n.toText = none := by
        rw [htext, Address.read?, Address.readV4?_coloned]
        rfl
      rw [parseFamily?, hread]
    rw [hv4, hparse]
    rfl

/-! ### No white space -/

theorem isBlank_numeral {base d : Nat} (h₁ : 1 < base) (h₂ : base ≤ 16) :
    ∀ c ∈ numeral base d, isBlank c = false := by
  have hall : ∀ d : Fin 16, isBlank d.val.digitChar = false := by decide
  intro c hc
  obtain ⟨d, hd, rfl⟩ := exists_of_mem_numeral h₁ hc
  exact hall ⟨d, by omega⟩

theorem isBlank_joinWith {c : Char} {l : List Text} (hc : isBlank c = false)
    (hl : ∀ s ∈ l, ∀ d ∈ s, isBlank d = false) : ∀ d ∈ joinWith [c] l, isBlank d = false := by
  cases l with
  | nil => exact List.forall_mem_nil _
  | cons s l =>
    obtain ⟨hs, hl⟩ := List.forall_mem_cons.1 hl
    rw [joinWith_cons]
    refine List.forall_mem_append.2 ⟨hs, fun d hd => ?_⟩
    obtain ⟨t, ht, hd⟩ := List.mem_flatMap.1 hd
    rcases List.mem_cons.1 hd with rfl | hd
    · exact hc
    · exact hl t ht d hd

theorem isBlank_dotted (v : Nat) : ∀ c ∈ Address.dotted v, isBlank c = false :=
  isBlank_joinWith (by decide) <| List.forall_mem_map.2 fun _ _ =>
    isBlank_numeral (by decide) (by decide)

theorem isBlank_colonJoin (gs : List Nat) : ∀ c ∈ Address.colonJoin gs, isBlank c = false :=
  isBlank_joinWith (by decide) <| List.forall_mem_map.2 fun _ _ =>
    isBlank_numeral (by decide) (by decide)

theorem isBlank_coloned (v : Nat) : ∀ c ∈ Address.coloned v, isBlank c = false := by
  unfold Address.coloned
  split
  · exact List.forall_mem_append.2 ⟨by simp [isBlank], isBlank_dotted _⟩
  · dsimp only
    split
    · exact isBlank_colonJoin _
    · exact List.forall_mem_append.2
        ⟨List.forall_mem_append.2 ⟨isBlank_colonJoin _, by simp [isBlank]⟩, isBlank_colonJoin _⟩

theorem isBlank_toText (n : Network) : ∀ c ∈ n.toText, isBlank c = false := by
  have haddress : ∀ c ∈ n.address.toText, isBlank c = false := by
    rw [Address.toText]
    split
    · exact isBlank_dotted _
    · exact isBlank_coloned _
  rw [toText]
  exact List.forall_mem_append.2
    ⟨List.forall_mem_append.2 ⟨haddress, by simp [isBlank]⟩, isBlank_numeral (by decide) (by decide)⟩

/-! ### Whole networks -/

theorem parse?_toText (n : Network) : parse? n.toText = some n := by
  rw [parse?, trim_eq_self (isBlank_toText n), parseSlash?_toText]
  rfl

theorem toText_injective (h : m.toText = n.toText) : m = n := by
  have := parse?_toText m
  rw [h, parse?_toText] at this
  exact (Option.some.inj this).symm

end RuleSets.Network
