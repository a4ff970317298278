import RuleSets.Proofs.Source.Detect
import RuleSets.Proofs.Source.Unit

/-!
# Noise around lines

Blank lines and comments between the lines of a list, white space around them, a line break behind
the last and a byte order mark before the first are noise (`Noisy`, `written`).  They leave the
content lines as they are (`Noisy.contentLines_written`), so that the list is recognised and read as
before (`noise_leaves_no_trace`).
-/

namespace RuleSets

/-! ### Lines -/

namespace Text

/-- Whether a text is white space within a line. -/
def IsGap (p : Text) : Prop := ∀ c ∈ p, isBlank c = true ∧ c ≠ '\n'

instance (p : Text) : Decidable (IsGap p) := List.decidableBAll _ p

/-- Whether lines come from others by white space around them, and by blank lines and comments in
any place. -/
inductive Noisy : List Text → List Text → Prop where
  | nil : Noisy [] []
  | line {ls ms : List Text} (p l q : Text) (hp : IsGap p) (hq : IsGap q) (h : Noisy ls ms) :
      Noisy (l :: ls) ((p ++ l ++ q) :: ms)
  | blank {ls ms : List Text} (p : Text) (hp : IsGap p) (h : Noisy ls ms) : Noisy ls (p :: ms)
  | comment {ls ms : List Text} (p q : Text) (hp : IsGap p) (hq : '\n' ∉ q) (h : Noisy ls ms) :
      Noisy ls ((p ++ '#' :: q) :: ms)

/-- The text of lines, with a byte order mark before the first and a line break behind the last or
without. -/
def written (mark final : Bool) (ls : List Text) : Text :=
  (if mark then ['\ufeff'] else []) ++ (joinWith ['\n'] ls ++ if final then ['\n'] else [])

variable {ls ms : List Text} {p : Text}

namespace IsGap

theorem isBlank (hp : IsGap p) : ∀ c ∈ p, isBlank c = true := fun c hc => (hp c hc).1

theorem no_newline (hp : IsGap p) : '\n' ∉ p := fun h => (hp _ h).2 rfl

theorem head?_ne (hp : IsGap p) : p.head? ≠ some '\ufeff' := fun he =>
  absurd (hp _ (List.mem_of_mem_head? he)).1 (by decide)

theorem trim (hp : IsGap p) : Text.trim p = [] := by
  have htrim := trim_append (s := []) hp.isBlank (q := []) nofun
  rwa [List.append_nil, List.append_nil] at htrim

/-- A comment stays one when it is trimmed. -/
theorem trim_comment (hp : IsGap p) (q : Text) : Text.trim (p ++ '#' :: q) = '#' :: trimEnd q := by
  have hsign : Text.isBlank '#' = false := by decide
  rw [Text.trim, trimStart_append hp.isBlank, trimStart, List.dropWhile_cons, hsign]
  exact trimEnd_cons hsign

end IsGap

namespace Noisy

theorem filter_isContent (h : Noisy ls ms) :
    (ms.map trim).filter isContent = (ls.map trim).filter isContent := by
  -- Trimmed, a line is the same with white space around it, and noise is nothing or a comment.
  induction h with
  | nil => rfl
  | line p l q hp hq _ ih =>
    simp only [List.map_cons, trim_append hp.isBlank hq.isBlank, List.filter_cons, ih]
  | blank p hp _ ih =>
    rw [List.map_cons, hp.trim, List.filter_cons_of_neg (by simp [isContent]), ih]
  | comment p q hp _ _ ih =>
    rw [List.map_cons, hp.trim_comment, List.filter_cons_of_neg (by simp [isContent]), ih]

theorem no_newline (h : Noisy ls ms) (hls : ∀ l ∈ ls, '\n' ∉ l) : ∀ m ∈ ms, '\n' ∉ m := by
  induction h with
  | nil => exact hls
  | line p l q hp hq _ ih =>
    obtain ⟨hl, hls⟩ := List.forall_mem_cons.1 hls
    refine List.forall_mem_cons.2 ⟨?_, ih hls⟩
    simp [hp.no_newline, hq.no_newline, hl]
  | blank p hp _ ih => exact List.forall_mem_cons.2 ⟨hp.no_newline, ih hls⟩
  | comment p q hp hq _ ih =>
    refine List.forall_mem_cons.2 ⟨?_, ih hls⟩
    simp [hp.no_newline, hq]

/-- Noise begins with no mark, so that the first line begins with one only if it did before. -/
theorem no_mark (h : Noisy ls ms) (hmark : ∀ l ∈ ls.head?, l.head? ≠ some '\ufeff') :
    ∀ m ∈ ms.head?, m.head? ≠ some '\ufeff' := by
  intro m hm
  cases h with
  | nil => cases hm
  | line p l q hp hq _ =>
    obtain rfl := Option.some.inj hm
    exact head?_append_ne (head?_append_ne hp.head?_ne (hmark l rfl)) hq.head?_ne
  | blank p hp _ =>
    obtain rfl := Option.some.inj hm
    exact hp.head?_ne
  | comment p q hp _ _ =>
    obtain rfl := Option.some.inj hm
    exact head?_append_ne hp.head?_ne (by simp)

end Noisy

theorem contentLines_written (hls : ∀ l ∈ ls, '\n' ∉ l)
    (hmark : ∀ l ∈ ls.head?, l.head? ≠ some '\ufeff') (mark final : Bool) :
    contentLines (written mark final ls) = (ls.map trim).filter isContent := by
  have hfinal : contentLines (joinWith ['\n'] ls ++ if final then ['\n'] else []) =
      (ls.map trim).filter isContent := by
    rw [← contentLines_joinWith hls hmark]
    cases final with
    | false => exact congrArg contentLines (List.append_nil _)
    | true => exact (contentLines_append _ (t := []) nofun).trans (List.append_nil _)
  cases mark with
  | false => exact hfinal
  | true =>
    have hbreak : List.head? (if final then ['\n'] else []) ≠ some '\ufeff' := by
      cases final <;> simp
    exact (contentLines_mark (head?_append_ne (head?_joinWith_ne hmark) hbreak)).trans hfinal

/-- Noise leaves the content lines of a text as they are. -/
theorem Noisy.contentLines_written (h : Noisy ls ms) (hls : ∀ l ∈ ls, '\n' ∉ l)
    (hmark : ∀ l ∈ ls.head?, l.head? ≠ some '\ufeff') (mark final : Bool) :
    contentLines (written mark final ms) = contentLines (joinWith ['\n'] ls) := by
  rw [Text.contentLines_written (h.no_newline hls) (h.no_mark hmark), h.filter_isContent,
    contentLines_joinWith hls hmark]

end Text

/-! ### Lists -/

theorem detect_congr {s t : Text} (h : Text.contentLines s = Text.contentLines t)
    (hs : (Document.parse s).tellsFormat = false) (ht : (Document.parse t).tellsFormat = false) :
    Format.detect .auto s = Format.detect .auto t := by
  rw [Format.detect, Format.detect, Format.ofDocument_eq_ofLines hs,
    Format.ofDocument_eq_ofLines ht, Format.cleanLines, h, Format.cleanLines]

/-- Noise around the lines of a text leaves no trace in its content lines, nor in what a domain list
or an address list with these lines gives, nor in the format that is recognised, unless the
structure of one of the texts tells it. -/
theorem noise_leaves_no_trace {ls ms : List Text} (h : Text.Noisy ls ms)
    (hls : ∀ l ∈ ls, '\n' ∉ l) (hmark : ∀ l ∈ ls.head?, l.head? ≠ some '\ufeff')
    (mark final : Bool) :
    let s := Text.joinWith ['\n'] ls
    let t := Text.written mark final ms
    Text.contentLines t = Text.contentLines s ∧
    extract .domainText t = extract .domainText s ∧
    extract .ipText t = extract .ipText s ∧
    ((Document.parse s).tellsFormat = false → (Document.parse t).tellsFormat = false →
      Format.detect .auto t = Format.detect .auto s) := by
  intro s t
  have hlines : Text.contentLines t = Text.contentLines s :=
    h.contentLines_written hls hmark mark final
  have hread {g : Text → Bucket} (hg : IsUnionOfLines g) : g t = g s :=
    hg.congr t s fun l => by rw [hlines]
  exact ⟨hlines, hread (.of_filterMap Extract.domainRule? fun _ => rfl),
    hread (.of_filterMap Extract.networkRule? fun _ => rfl), fun hs ht => detect_congr hlines ht hs⟩

/-- A mark, returns, a no-break space, a line separator within a line and comments. -/
theorem noisy_addresses_are_read :
    let ls := ["1.1.1.0/24".toList, "\ufeff".toList, "8.8.8.0/24".toList, "9.9.9.0/24".toList]
    let ms := ["\u00a0# one\u2028# two".toList, "1.1.1.0/24\r".toList, "\ufeff".toList,
      "\u2028\r".toList, "\t8.8.8.0/24".toList, "9.9.9.0/24\u2028".toList]
    let s := Text.joinWith ['\n'] ls
    let t := Text.written true true ms
    Text.Noisy ls ms ∧ (∀ l ∈ ls, '\n' ∉ l) ∧ (∀ l ∈ ls.head?, l.head? ≠ some '\ufeff') ∧
      (Document.parse s).tellsFormat = false ∧ (Document.parse t).tellsFormat = false ∧
      extract .ipText t = extract .ipText s ∧ Format.detect .auto t = Format.detect .auto s := by
  intro ls ms s t
  have hnoisy : Text.Noisy ls ms := by
    refine .comment "\u00a0".toList _ (by decide) (by decide) ?_
    refine .line [] _ "\r".toList (by decide) (by decide) (.line [] _ [] (by decide) (by decide) ?_)
    refine .blank _ (by decide) (.line "\t".toList _ [] (by decide) (by decide) ?_)
    exact .line [] _ "\u2028".toList (by decide) (by decide) .nil
  have hls : ∀ l ∈ ls, '\n' ∉ l := by decide
  have hmark : ∀ l ∈ ls.head?, l.head? ≠ some '\ufeff' := by decide
  have hs : (Document.parse s).tellsFormat = false := by decide +kernel
  have ht : (Document.parse t).tellsFormat = false := by decide +kernel
  obtain ⟨-, -, hread, hdetect⟩ := noise_leaves_no_trace hnoisy hls hmark true true
  exact ⟨hnoisy, hls, hmark, hs, ht, hread, hdetect hs ht⟩

end RuleSets
