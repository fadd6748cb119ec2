import Mathlib.Tactic.Common
import VisualTemplate.Error
import VisualTemplate.Files
import VisualTemplate.Proofs.Text.Utf8
/-!
What becomes of files when folders are made and a file is written.

Folders change no file, be they made or not. A file that is written is read back by its path with
its new text, and one whose writing is broken off holds a beginning of it. All other places hold
what they held.
-/

namespace VisualTemplate.Files

variable {sys : System} {fs gs : Files} {path text : String}

/-- The files are the same. Folders may have been made. -/
structure Kept (fs gs : Files) : Prop where
  stored : gs.stored = fs.stored
  folders : fs.folders <:+ gs.folders

lemma Kept.rfl : fs.Kept fs := ⟨Eq.refl _, List.suffix_rfl⟩

lemma Kept.trans {hs : Files} (h : fs.Kept gs) (h' : gs.Kept hs) : fs.Kept hs :=
  ⟨h'.stored.trans h.stored, h.folders.trans h'.folders⟩

lemma Kept.hasFolder (h : fs.Kept gs) {l : Location} (hl : fs.hasFolder l = true) :
    gs.hasFolder l = true := by
  simp only [Files.hasFolder, h.stored, Bool.or_eq_true, List.contains_iff_mem] at hl ⊢
  exact hl.imp_left (Or.imp_right fun hmem => h.folders.mem hmem)

lemma Kept.bytes? (h : fs.Kept gs) (l : Location) : gs.bytes? l = fs.bytes? l := by
  rw [Files.bytes?, h.stored, Files.bytes?]

/-- Names lead to the same place where there are no fewer folders. -/
lemma follow_mono (h : ∀ l, fs.hasFolder l = true → gs.hasFolder l = true) {l l' : Location}
    {ns : List String} (hl : fs.follow l ns = .ok l') : gs.follow l ns = .ok l' := by
  induction ns generalizing l with
  | nil => exact hl
  | cons n ns ih =>
    rw [follow] at hl ⊢
    obtain ⟨m, hm, hl⟩ := Except.bind_eq_ok_iff.1 hl
    have hstep : gs.step l n = .ok m := by
      unfold step at hm ⊢
      split at hm
      · next hfolder => rw [if_pos (h l hfolder), hm]
      · cases hm
    exact Except.bind_eq_ok_iff.2 ⟨m, hstep, ih hl⟩

lemma locate_mono (h : ∀ l, fs.hasFolder l = true → gs.hasFolder l = true) {l : Location}
    {ns : List String} (hl : fs.locate ns = .ok l) : gs.locate ns = .ok l := by
  unfold locate at hl ⊢
  split at hl <;> exact follow_mono h hl

/-- The path leads to a file of some bytes, and all other places hold what they held. -/
def Written (fs gs : Files) (path : String) (bytes : List UInt8) : Prop :=
  ∃ l, gs.locate (Path.names path) = .ok l ∧ gs.bytes? l = some bytes ∧
    ∀ l', l' ≠ l → gs.bytes? l' = fs.bytes? l'

lemma Written.kept {hs : Files} {bytes : List UInt8} (h : Written fs gs path bytes)
    (hkept : gs.Kept hs) : Written fs hs path bytes := by
  obtain ⟨l, hl, hbytes, hothers⟩ := h
  exact ⟨l, locate_mono (fun _ => hkept.hasFolder) hl, (hkept.bytes? l).trans hbytes,
    fun l' hl' => (hkept.bytes? l').trans (hothers l' hl')⟩

lemma Kept.written {hs : Files} {bytes : List UInt8} (hkept : fs.Kept gs)
    (h : Written gs hs path bytes) : Written fs hs path bytes := by
  obtain ⟨l, hl, hbytes, hothers⟩ := h
  exact ⟨l, hl, hbytes, fun l' hl' => (hothers l' hl').trans (hkept.bytes? l')⟩

/-- A text that was written is read. -/
lemma Written.read (h : Written fs gs path (Text.utf8 text)) : gs.read path = .ok text := by
  obtain ⟨l, hl, hbytes, -⟩ := h
  have htext : gs.content? l = some text := by
    rw [content?, hbytes, Option.bind_some, Text.ofUtf8?_utf8]
  exact Except.bind_eq_ok_iff.2 ⟨l, hl, by rw [htext]⟩

end VisualTemplate.Files
