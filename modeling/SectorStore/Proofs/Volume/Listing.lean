import SectorStore.Proofs.FileHeader.Listing
import SectorStore.Proofs.Volume.Intact
import SectorStore.Volume.Listing

/-!
# Listing an intact volume

Listings only read: that of an intact volume runs through and leaves the disk as it was.
-/

namespace SectorStore

variable {disk : Disk}

namespace FileHeader

theorem Placed.yields_listing_self {header : FileHeader} (h : header.Placed disk) :
    header.listing.Yields disk fun _ disk' => disk' = disk :=
  h.inside.yields_listing.2 rfl

end FileHeader

namespace Volume.Intact

variable {volume : Volume} {lost : List SectorId}

theorem yields_fileListings (h : volume.Intact disk lost) (names : List String) :
    (volume.fileListings names).Yields disk fun _ disk' => disk' = disk := by
  induction names with
  | nil => exact Transfer.yields_pure.2 rfl
  | cons name others ih =>
    have hrest : ∀ entry : String, (do return entry ++ (← volume.fileListings others)).Yields disk
        fun _ disk' => disk' = disk := by
      intro entry
      refine ih.bind ?_
      rintro rest disk' rfl
      exact Transfer.yields_pure.2 rfl
    rw [fileListings, Directory.find?_eq]
    rcases hindex : volume.directory.indexOf? name with _ | i
    · exact hrest ""
    obtain ⟨header, hheader, -⟩ := h.exists_header i (Directory.isUnused_of_indexOf? hindex)
    have hstored := (header?_eq_some_iff.1 hheader).2
    have hplaced := header.sameLayout_forget.placed (h.placed hheader)
    simp only [Option.map_some]
    rw [Transfer.yields_bind, FileHeader.yields_load (h.header_lt_count hheader) hstored]
    refine hplaced.yields_listing_self.bind ?_
    rintro listing disk' rfl
    rw [pure_bind]
    exact hrest _

theorem yields_listing (h : volume.Intact disk lost) :
    volume.listing.Yields disk fun _ disk' => disk' = disk := by
  rw [listing]
  refine h.placed_freeMapFile.yields_listing_self.bind ?_
  rintro freeMap disk' rfl
  refine h.placed_directoryFile.yields_listing_self.bind ?_
  rintro directory disk' rfl
  refine (h.yields_fileListings volume.names).bind ?_
  rintro files disk' rfl
  exact Transfer.yields_pure.2 rfl

end Volume.Intact

end SectorStore
