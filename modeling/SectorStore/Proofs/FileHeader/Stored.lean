import SectorStore.Proofs.FileHeader.Codec
import SectorStore.Proofs.Transfer.Yields

/-!
# Headers in sectors

`disk.header? s` is the header that sector `s` of a disk holds, if it holds one, with `s` recorded
as its home: what `loadHome` answers (`yields_loadHome`), and what `store` leaves behind
(`header?_put_encode`).
-/

namespace SectorStore

/-- The header in a sector, with the sector as its home. -/
def Disk.header? (disk : Disk) (sector : SectorId) : Option FileHeader :=
  (FileHeader.decode? (disk.get sector)).map (·.setHome sector)

namespace Disk

variable {disk disk' : Disk} {sector : SectorId} {header : FileHeader}

theorem home_of_header? (h : disk.header? sector = some header) : header.home = some sector := by
  rw [header?, Option.map_eq_some_iff] at h
  obtain ⟨stored, -, rfl⟩ := h
  rfl

theorem header?_congr (h : disk'.get sector = disk.get sector) :
    disk'.header? sector = disk.header? sector := by
  rw [header?, header?, h]

/-- A consistent header is found in the sector that it was written to. -/
theorem header?_put_encode (h : header.IsConsistent) (hhome : header.home = some sector) :
    (disk.put sector header.encode).header? sector = some header := by
  rw [header?, get_put_self, FileHeader.decode?_encode h, Option.map_some, FileHeader.setHome,
    ← hhome]

end Disk

namespace FileHeader

variable {disk : Disk} {sector : SectorId} {header : FileHeader}

/-- A stored header does not know its home. -/
theorem home_of_decode? {data : Sector} (h : decode? data = some header) : header.home = none := by
  rw [decode?] at h
  split at h
  · cases h
  · cases h
    rfl

theorem yields_load (hlt : sector.toNat < disk.count) (h : disk.header? sector = some header)
    {post : FileHeader → Disk → Prop} :
    (load sector).Yields disk post ↔ post { header with home := none } disk := by
  rw [Disk.header?, Option.map_eq_some_iff] at h
  obtain ⟨stored, hstored, rfl⟩ := h
  have hhome := home_of_decode? hstored
  rw [load, Transfer.yields_bind, Transfer.yields_load hlt, hstored]
  rw [show ({ stored.setHome sector with home := none } : FileHeader) = stored by
    rw [← hhome]; rfl]
  exact Transfer.yields_pure

theorem yields_loadHome (hlt : sector.toNat < disk.count) (h : disk.header? sector = some header)
    {post : FileHeader → Disk → Prop} :
    (loadHome sector).Yields disk post ↔ post header disk := by
  have hhome := Disk.home_of_header? h
  rw [loadHome, Transfer.yields_bind, yields_load hlt h, Transfer.yields_pure]
  rw [show ({ header with home := none } : FileHeader).setHome sector = header by
    rw [setHome, ← hhome]]

end FileHeader

end SectorStore
