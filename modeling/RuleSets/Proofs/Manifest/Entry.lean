import Mathlib.Data.List.Forall2
import RuleSets.Manifest
import RuleSets.Proofs.Text.Trim

/-!
# Entries of a manifest

An entry is valid if it is an object with a name and an address, its name can be used for files, and
its format, where it gives one, spells the name of a hint.  `Manifest.Describes` says so field by
field, and reading an entry finds just the source that it describes (`read_iff_describes`).
-/

namespace RuleSets

variable {f n s key : Text} {h : Hint} {fields : List (Text × Value)} {v : Value} {source : Source}

/-! ### Hints -/

namespace Hint

/-- Whether `c` may stand for the character `d` of a name: a letter in either case, and an
underscore for a hyphen. -/
def Stands (c d : Char) : Prop := c.toLower = d ∨ c = '_' ∧ d = '-'

/-- Whether a text spells the name of a hint. -/
def IsSpelled (h : Hint) (f : Text) : Prop := List.Forall₂ Stands f h.name

theorem toLower_eq_underscore {c : Char} : c.toLower = '_' ↔ c = '_' := by
  constructor
  · intro h
    unfold Char.toLower at h
    split at h
    · rename_i hupper
      have hcode := congrArg (fun c : Char => c.val.toNat) h
      have hfirst : 65 ≤ c.val.toNat := UInt32.le_iff_toNat_le.1 hupper.1
      have hlast : c.val.toNat ≤ 90 := UInt32.le_iff_toNat_le.1 hupper.2
      have hoffset : ('a'.val - 'A'.val).toNat = 32 := rfl
      have hunderscore : '_'.val.toNat = 95 := rfl
      simp only [UInt32.toNat_add] at hcode
      omega
    · exact h
  · rintro rfl
    rfl

theorem stands_iff {c d : Char} (hd : d ≠ '_') :
    Stands c d ↔ (if c.toLower = '_' then '-' else c.toLower) = d := by
  rw [Stands]
  split
  · rename_i hc
    rw [hc, toLower_eq_underscore.1 hc]
    constructor
    · rintro (rfl | ⟨-, rfl⟩)
      · exact absurd rfl hd
      · rfl
    · rintro rfl
      exact .inr ⟨rfl, rfl⟩
  · rename_i hc
    constructor
    · rintro (rfl | ⟨rfl, -⟩)
      · rfl
      · exact absurd rfl hc
    · exact .inl

theorem forall₂_stands (hn : '_' ∉ n) : List.Forall₂ Stands f n ↔
    (Text.asciiLower f).map (fun c => if c = '_' then '-' else c) = n := by
  induction f generalizing n with
  | nil => simp [Text.asciiLower, eq_comm]
  | cons c f ih =>
    cases n with
    | nil => simp [Text.asciiLower]
    | cons d n =>
      obtain ⟨hd, hn⟩ := not_or.1 (fun h => hn (List.mem_cons.2 h))
      rw [List.forall₂_cons, ih hn, stands_iff fun he => hd he.symm]
      simp [Text.asciiLower]

theorem isSpelled_iff : h.IsSpelled f ↔
    (Text.asciiLower f).map (fun c => if c = '_' then '-' else c) = h.name := by
  refine forall₂_stands ?_
  cases h with
  | auto => decide
  | fixed format => cases format <;> decide

theorem find?_name_eq_some {format : Format} :
    Format.all.find? (fun g => g.name == n) = some format ↔ n = format.name := by
  constructor
  · intro h
    have hname := List.find?_some h
    exact (beq_iff_eq.1 hname).symm
  · rintro rfl
    cases format <;> decide

/-- Of the names of hints, the spelled one is found. -/
theorem ofName?_eq_some_iff (hf : Text.trim f ≠ []) :
    ofName? f = some h ↔ h.IsSpelled (Text.trim f) := by
  have hne : (Text.asciiLower (Text.trim f)).map (fun c => if c = '_' then '-' else c) ≠ [] := by
    simp [Text.asciiLower, hf]
  rw [isSpelled_iff, ofName?]
  generalize (Text.asciiLower (Text.trim f)).map (fun c => if c = '_' then '-' else c) = n at hne ⊢
  by_cases hauto : n = "auto".toList
  · subst hauto
    rw [if_pos (by decide)]
    cases h with
    | auto => exact iff_of_true rfl rfl
    | fixed format =>
      refine iff_of_false nofun ?_
      cases format <;> decide
  · rw [if_neg (by rw [Bool.or_eq_true, List.isEmpty_iff, beq_iff_eq]; exact not_or.2 ⟨hne, hauto⟩)]
    cases h with
    | auto =>
      refine iff_of_false ?_ hauto
      rw [Option.map_eq_some_iff]
      rintro ⟨_, -, ⟨⟩⟩
    | fixed format =>
      rw [Option.map_eq_some_iff]
      constructor
      · rintro ⟨g, hg, ⟨⟩⟩
        exact find?_name_eq_some.1 hg
      · intro hn
        exact ⟨format, find?_name_eq_some.2 hn, rfl⟩

end Hint

namespace Manifest

/-! ### Fields -/

/-- Whether a field holds a string that is this text without the white space around it. -/
def HasText (fields : List (Text × Value)) (key s : Text) : Prop :=
  s ≠ [] ∧ ∃ raw, Value.field? key fields = some (.string raw) ∧ Text.trim raw = s

theorem stringField?_eq_some_iff : stringField? key fields = some s ↔ HasText fields key s := by
  have hstring : ∀ raw, (Value.field? key fields).bind Value.string? = some raw ↔
      Value.field? key fields = some (.string raw) := by
    intro raw
    rcases Value.field? key fields with _ | v
    · simp
    · cases v <;> simp [Value.string?]
  rw [stringField?, HasText]
  simp only [← hstring]
  rcases (Value.field? key fields).bind Value.string? with _ | raw
  · simp
  · simp only [List.isEmpty_iff, Option.ite_none_left_eq_some, Option.some.injEq, exists_eq_left']
    constructor
    · rintro ⟨hne, rfl⟩
      exact ⟨hne, rfl⟩
    · rintro ⟨hne, rfl⟩
      exact ⟨hne, rfl⟩

/-- Whether a name can be used for files. -/
def IsSafe (s : Text) : Prop := s.head? ≠ some '.' ∧ '/' ∉ s ∧ '\\' ∉ s ∧ '\x00' ∉ s

theorem isSafeName_iff : isSafeName s = true ↔ s ≠ [] ∧ IsSafe s := by
  have hany : (s.any fun c => c == '/' || c == '\\' || c == '\x00') = false ↔
      '/' ∉ s ∧ '\\' ∉ s ∧ '\x00' ∉ s := by
    simp only [List.any_eq_false, Bool.or_eq_true, beq_iff_eq]
    constructor
    · intro h
      exact ⟨fun hc => h _ hc (.inl (.inl rfl)), fun hc => h _ hc (.inl (.inr rfl)),
        fun hc => h _ hc (.inr rfl)⟩
    · rintro ⟨h₁, h₂, h₃⟩ c hc ((rfl | rfl) | rfl)
      · exact h₁ hc
      · exact h₂ hc
      · exact h₃ hc
  rw [isSafeName, Bool.and_eq_true, Bool.and_eq_true, Bool.not_eq_true', Bool.not_eq_true', hany,
    List.isEmpty_eq_false_iff, bne_iff_ne, and_assoc, IsSafe]

/-- Whether an entry asks for a hint: by the name that its format spells, or by giving none. -/
def AsksFor (fields : List (Text × Value)) (h : Hint) : Prop :=
  (∃ f, HasText fields "format".toList f ∧ h.IsSpelled f) ∨
    (∀ f, ¬ HasText fields "format".toList f) ∧ h = .auto

/-- Whether an entry is valid and describes a source. -/
def Describes (v : Value) (source : Source) : Prop :=
  ∃ fields, v = .object fields ∧ HasText fields "name".toList source.name ∧
    HasText fields "url".toList source.url ∧ IsSafe source.name ∧ AsksFor fields source.hint

theorem HasText.trim_eq (h : HasText fields key s) : Text.trim s = s := by
  obtain ⟨-, raw, -, rfl⟩ := h
  exact Text.trim_trim raw

theorem HasText.unique (hs : HasText fields key s) (hf : HasText fields key f) : s = f := by
  rw [← stringField?_eq_some_iff] at hs hf
  exact Option.some.inj (hs.symm.trans hf)

theorem asksFor_of_none (hformat : stringField? "format".toList fields = none) :
    AsksFor fields h ↔ h = .auto := by
  have hnone : ∀ f, ¬ HasText fields "format".toList f := by
    intro f hf
    rw [← stringField?_eq_some_iff, hformat] at hf
    cases hf
  constructor
  · rintro (⟨f, hf, -⟩ | ⟨-, hauto⟩)
    · exact absurd hf (hnone f)
    · exact hauto
  · exact fun hauto => .inr ⟨hnone, hauto⟩

theorem asksFor_of_some (hformat : stringField? "format".toList fields = some f) :
    AsksFor fields h ↔ Hint.ofName? f = some h := by
  have hf := stringField?_eq_some_iff.1 hformat
  have hspelled : Hint.ofName? f = some h ↔ h.IsSpelled f := by
    have hname := Hint.ofName?_eq_some_iff (f := f) (h := h) (hf.trim_eq.symm ▸ hf.1)
    rwa [hf.trim_eq] at hname
  rw [hspelled]
  constructor
  · rintro (⟨g, hg, hspell⟩ | ⟨hnone, -⟩)
    · rwa [hf.unique hg]
    · exact absurd hf (hnone f)
  · exact fun hspell => .inl ⟨f, hf, hspell⟩

/-- Reading an entry finds the source that it describes, if it is valid. -/
theorem read_iff_describes : entry? v = some source ↔ Describes v source := by
  cases v with
  | object fields =>
    simp only [ entry?, bind, Option.bind_eq_some_iff, Option.ite_none_right_eq_some,
      stringField?_eq_some_iff, isSafeName_iff]
    constructor
    · rintro ⟨name, hname, url, hurl, ⟨-, hsafe⟩, h⟩
      split at h
      · rename_i f hformat
        obtain ⟨hint, hhint, rfl⟩ := Option.map_eq_some_iff.1 h
        exact ⟨fields, rfl, hname, hurl, hsafe, (asksFor_of_some hformat).2 hhint⟩
      · rename_i hformat
        obtain rfl := Option.some.inj h
        exact ⟨fields, rfl, hname, hurl, hsafe, (asksFor_of_none hformat).2 rfl⟩
    · rintro ⟨_, ⟨⟩, hname, hurl, hsafe, hhint⟩
      refine ⟨source.name, hname, source.url, hurl, ⟨hname.1, hsafe⟩, ?_⟩
      split
      · rename_i f hformat
        rw [(asksFor_of_some hformat).1 hhint]
        rfl
      · rename_i hformat
        rw [← (asksFor_of_none hformat).1 hhint]
  | _ => exact ⟨nofun, nofun⟩

end Manifest
end RuleSets
