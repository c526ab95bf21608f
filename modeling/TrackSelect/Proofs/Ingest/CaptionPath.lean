import TrackSelect.Ingest
import TrackSelect.Proofs.Disk.Writing
import TrackSelect.Proofs.Text.Numeral

/-!
# The paths of caption files

A caption file is named by the stem of the media file and the index of its track. Both can be read
off the name again, whatever points and digits are in the stem (`captionName_inj`), so caption files
in one folder have different paths (`captionPath_inj`), and different places on a disk
(`captionPlace_name`).
-/

namespace TrackSelect.Ingest

/-- The name of a caption file in its folder. -/
def captionName (media : String) (track : Nat) : String :=
  Path.stem media ++ "." ++ toString track ++ ".srt"

theorem captionPath_eq (settings : Settings) (media : String) (track : Nat) :
    captionPath settings media track =
      Path.join (captionFolder settings media) (captionName media track) := rfl

theorem captionName_toList (media : String) (track : Nat) :
    (captionName media track).toList =
      (Path.stem media).toList ++ '.' :: (Text.digits track ++ ".srt".toList) := by
  rw [captionName, String.toList_append, String.toList_append, String.toList_append,
    Text.toList_toString, List.append_assoc, List.append_assoc]
  rfl

theorem notMem_digits {c : Char} (h : c.isDigit = false) (n : Nat) : c ∉ Text.digits n :=
  fun hmem => by simp [Text.isDigit_of_mem_digits hmem] at h

theorem slash_notMem_captionName (media : String) (track : Nat) :
    '/' ∉ (captionName media track).toList := by
  rw [captionName_toList]
  have hstem := Path.slash_notMem_stem media
  have hdigits : '/' ∉ Text.digits track := notMem_digits (by decide) track
  simp [hstem, hdigits]

/-- **A caption file tells its stem and its track.** The index stands behind the last point but one,
as there is none in its digits. -/
theorem captionName_inj {media₁ media₂ : String} {track₁ track₂ : Nat}
    (h : captionName media₁ track₁ = captionName media₂ track₂) :
    Path.stem media₁ = Path.stem media₂ ∧ track₁ = track₂ := by
  rw [← String.toList_inj, captionName_toList, captionName_toList] at h
  simp only [← List.cons_append, ← List.append_assoc] at h
  have hnames := List.append_cancel_right h
  have hsplit : ∀ stem track, (stem ++ '.' :: Text.digits track).splitOn '.' =
      stem.splitOn '.' ++ [Text.digits track] := by
    intro stem track
    rw [List.splitOn_append_cons_self, List.splitOn_eq_singleton (notMem_digits (by decide) track)]
  have hparts := congrArg (List.splitOn '.') hnames
  rw [hsplit, hsplit] at hparts
  obtain ⟨-, hdigits⟩ := List.append_inj' hparts rfl
  rw [List.singleton_inj.1 hdigits] at hnames
  exact ⟨String.toList_inj.1 (List.append_cancel_right hnames),
    Text.digits_inj (List.singleton_inj.1 hdigits)⟩

/-- **Caption files in one folder have different paths** when they differ in stem or track. -/
theorem captionPath_inj {settings₁ settings₂ : Settings} {media₁ media₂ : String}
    {track₁ track₂ : Nat}
    (hfolder : captionFolder settings₁ media₁ = captionFolder settings₂ media₂)
    (h : captionPath settings₁ media₁ track₁ = captionPath settings₂ media₂ track₂) :
    Path.stem media₁ = Path.stem media₂ ∧ track₁ = track₂ := by
  rw [captionPath_eq, captionPath_eq, hfolder] at h
  exact captionName_inj (Path.join_inj (slash_notMem_captionName media₁ track₁)
    (slash_notMem_captionName media₂ track₂) h)

/-- The path of a caption file leads to a place of its name. -/
theorem captionPlace_name {settings : Settings} {media : String} {track : Nat} {disk : Disk}
    {place : Place} (h : disk.locate (captionPath settings media track) = .ok place) :
    place.getLast? = some (captionName media track) := by
  have hpoint : ∀ name : String, name.toList.length ≤ 2 → captionName media track ≠ name := by
    rintro name hshort rfl
    rw [captionName_toList] at hshort
    simp at hshort
    omega
  exact Disk.locate_join (slash_notMem_captionName media track) (hpoint _ (by decide))
    (hpoint _ (by decide)) (hpoint _ (by decide)) h

end TrackSelect.Ingest
