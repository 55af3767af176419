import Mathlib.Data.List.GetD
import SectorStore.Proofs.OpenFile

/-!
# Two writes in a row

A write that is completed can be made in two: the first part of the data, and then the second part
behind it. The file has to be made longer in two steps, with the tables written after each of them,
but the sectors that it gets are the same, since both times the lowest free ones are taken
(`Rewritten.joins`). So are all bytes that were written (`Intact.exists_writeAt_append`), as long as
the clock gives the same text each time.
-/

namespace SectorStore

/-- All readings of the clock are the same. -/
def Clock.IsSteady (clock : Clock) : Prop :=
  ∀ i j, clock.readings i = clock.readings j

/-- A clock of the same readings is as steady. -/
theorem Clock.IsSteady.congr {clock clock' : Clock} (h : clock.IsSteady)
    (hreadings : clock'.readings = clock.readings) : clock'.IsSteady := by
  rw [IsSteady, hreadings]
  exact h

/-! ## Lengths -/

namespace FileHeader

variable {length free free' stop stop' : Nat}

/-- A file that can be made to end somewhere can be made to end before that. -/
theorem Growable.of_le (h : Growable length free stop') (hstart : length ≤ stop)
    (hstop : stop ≤ stop') : Growable length free stop := by
  have hmono := sectorsFor_mono hstart
  have hmono' := sectorsFor_mono hstop
  rw [Growable] at h ⊢
  omega

/-- A file that was made to end somewhere on its way can be made to end where it was to. -/
theorem Growable.rest (h : Growable length free stop') (hstart : length ≤ stop)
    (hstop : stop ≤ stop') (hfree : free' + totalSectorsFor stop = free + totalSectorsFor length) :
    Growable stop free' stop' := by
  have hmono := sectorsFor_mono hstart
  have hmono' := sectorsFor_mono hstop
  rw [Growable] at h ⊢
  simp only [totalSectorsFor] at hfree
  split at hfree <;> split at hfree <;> omega

/-- A file ends where it was to end if it reaches that far at all, or where it did. -/
theorem reach_eq_max_of_le (h : stop ≤ reach length free stop) :
    reach length free stop = max length stop := by
  rw [reach] at h ⊢
  split at h <;> split <;> omega

/-- A file that reaches far enough reaches every position on the way. -/
theorem reach_of_le (hstop : stop ≤ stop') (h : stop' ≤ reach length free stop') :
    reach length free stop = max length stop := by
  rw [reach] at h
  rw [reach]
  split at h
  · next hgrow =>
    split
    · omega
    · next hnot =>
      rcases Nat.lt_or_ge length stop with hlt | hle
      · exact absurd ⟨hlt, hgrow.2.of_le (Nat.le_of_lt hlt) hstop⟩ hnot
      · omega
  · rw [if_neg (by omega)]
    omega

/-- A file that reaches far enough also does so in two steps. -/
theorem reach_reach (hstop : stop ≤ stop') (h : stop' ≤ reach length free stop')
    (hfree : free' + totalSectorsFor (reach length free stop) = free + totalSectorsFor length) :
    reach (reach length free stop) free' stop' = max length stop' := by
  rw [reach_of_le hstop h] at hfree ⊢
  rcases Nat.lt_or_ge length stop' with hlt | hle
  swap
  · rw [reach, if_neg (by omega)]
    omega
  have hgrow : Growable length free stop' := by
    by_contra hnot
    rw [reach, if_neg fun hreach => hnot hreach.2] at h
    omega
  rcases Nat.lt_or_ge (max length stop) stop' with hlt' | hle'
  · have hrest := hgrow.rest (Nat.le_max_left length stop) (by omega) hfree
    rw [reach, if_pos ⟨hlt', hrest⟩]
    omega
  · rw [reach, if_neg (by omega)]
    omega

/-- A second attempt to reach the same position changes nothing. -/
theorem reach_self
    (hfree : free' + totalSectorsFor (reach length free stop) = free + totalSectorsFor length) :
    reach (reach length free stop) free' stop = reach length free stop := by
  by_cases hgrow : length < stop ∧ Growable length free stop
  · rw [reach, reach, if_pos hgrow, if_neg fun hreach => Nat.lt_irrefl _ hreach.1]
  · have hlength : reach length free stop = length := if_neg hgrow
    rw [hlength] at hfree ⊢
    obtain rfl : free' = free := by omega
    exact hlength

end FileHeader

/-- Laying two parts of the data over bytes one behind the other lays all of it over them. -/
theorem Bytes.overlay_append (bytes : Bytes) (offset : Nat) (first second : Bytes) :
    (bytes.overlay (max bytes.length (offset + first.length)) offset first).overlay
        (max bytes.length (offset + (first ++ second).length)) (offset + first.length) second =
      bytes.overlay (max bytes.length (offset + (first ++ second).length)) offset
        (first ++ second) := by
  have hfirst := length_overlay (Nat.le_max_left bytes.length (offset + first.length)) offset first
  have hle : (bytes.overlay (max bytes.length (offset + first.length)) offset first).length ≤
      max bytes.length (offset + (first ++ second).length) := by
    rw [hfirst, List.length_append]
    omega
  have hle' := Nat.le_max_left bytes.length (offset + (first ++ second).length)
  apply List.ext_getElem
  · rw [length_overlay hle, length_overlay hle']
  intro k hk hk'
  rw [length_overlay hle] at hk
  have hboth := getD_overlay hle (offset + first.length) second hk
  have hwhole := getD_overlay hle' offset (first ++ second) hk
  rw [List.getD_eq_getElem?_getD, List.getElem?_eq_getElem (by rwa [length_overlay hle]),
    Option.getD_some] at hboth
  rw [List.getD_eq_getElem?_getD, List.getElem?_eq_getElem (by rwa [length_overlay hle']),
    Option.getD_some] at hwhole
  rw [hboth, hwhole, List.length_append]
  -- the position is in the second part, in the first part, or in neither
  by_cases hsecond : offset + first.length ≤ k ∧ k < offset + first.length + second.length
  · rw [if_pos hsecond, if_pos (by omega), List.getD_append_right _ _ _ _ (by omega)]
    congr 1
    omega
  rw [if_neg hsecond]
  by_cases hold : k < max bytes.length (offset + first.length)
  · rw [getD_overlay (Nat.le_max_left _ _) offset first hold]
    by_cases hin : offset ≤ k ∧ k < offset + first.length
    · rw [if_pos hin, if_pos (by omega), List.getD_append _ _ _ _ (by omega)]
    · rw [if_neg hin, if_neg (by omega)]
  · rw [List.getD_eq_default _ _ (by omega), if_neg (by omega), List.getD_eq_default _ _ (by omega)]

/-! ## Disks -/

/-- Files with the same sectors and the same bytes have them at the same places. -/
theorem FileHeader.get_eq_of_contents_eq {header header' : FileHeader} {disk disk' : Disk}
    (hdata : header'.dataSectors disk' = header.dataSectors disk)
    (hcontents : header'.contents disk' = header.contents disk) {s : SectorId}
    {k : Fin sectorSize} (hplace : (s, k) ∈ header.places disk ⟨0, header.length⟩) :
    (disk'.get s).get k = (disk.get s).get k := by
  obtain ⟨i, -, hi, heq⟩ := hplace
  obtain ⟨rfl, rfl⟩ := Prod.mk.inj heq
  have hlength := congrArg List.length hcontents
  rw [length_contents, length_contents] at hlength
  have hbyte : (header'.contents disk').getD i 0 = (header.contents disk).getD i 0 := by
    rw [hcontents]
  rw [List.getD_eq_getElem _ _ (by rwa [length_contents, hlength]),
    List.getD_eq_getElem _ _ (by rwa [length_contents]), getElem_contents, getElem_contents, byteAt,
    byteAt, sectorOf, hdata, ← sectorOf] at hbyte
  exact hbyte

namespace Volume

variable {volume volume' volume₁ volume₂ : Volume} {disk disk' disk₁ disk₂ : Disk}
  {lost : List SectorId} {i : Fin numEntries} {header header' header₁ header₂ : FileHeader}
  {offset written : Nat} {data : Bytes}

/-- The tables' files have the same sectors on both disks. -/
structure SameTables (volume : Volume) (disk disk' : Disk) : Prop where
  /-- The file of the free map has the same sectors. -/
  freeMapFile_eq : volume.freeMapFile.dataSectors disk' = volume.freeMapFile.dataSectors disk
  /-- The file of the directory has the same sectors. -/
  directoryFile_eq : volume.directoryFile.dataSectors disk' = volume.directoryFile.dataSectors disk

namespace SameTables

/-- Disks with the same headers and indexes of the tables have the same tables. -/
theorem of_get_eq (h : ∀ o, (o = .freeMapFile ∨ o = .directoryFile) →
    ∀ s ∈ volume.metaSectors disk o, disk'.get s = disk.get s) : volume.SameTables disk disk' :=
  ⟨FileHeader.dataSectors_congr (h .freeMapFile (.inl rfl)),
    FileHeader.dataSectors_congr (h .directoryFile (.inr rfl))⟩

theorem trans (h : volume.SameTables disk disk') (h' : volume.SameTables disk' disk₁) :
    volume.SameTables disk disk₁ :=
  ⟨h'.freeMapFile_eq.trans h.freeMapFile_eq, h'.directoryFile_eq.trans h.directoryFile_eq⟩

theorem symm (h : volume.SameTables disk disk') : volume.SameTables disk' disk :=
  ⟨h.freeMapFile_eq.symm, h.directoryFile_eq.symm⟩

/-- Where the tables are is a matter of their headers only. -/
theorem congr (h : volume.SameTables disk disk') (hmap : volume'.freeMapFile = volume.freeMapFile)
    (hdirectory : volume'.directoryFile = volume.directoryFile) :
    volume'.SameTables disk disk' where
  freeMapFile_eq := hmap ▸ h.freeMapFile_eq
  directoryFile_eq := hdirectory ▸ h.directoryFile_eq

/-- Disks with the same tables have them in the same places. -/
theorem tablePlaces_eq (h : volume.SameTables disk disk') :
    volume.tablePlaces disk' = volume.tablePlaces disk := by
  rw [tablePlaces, FileHeader.places_congr h.freeMapFile_eq,
    FileHeader.places_congr h.directoryFile_eq, tablePlaces]

/-- Flushed tables in the same sectors have the same bytes. -/
theorem get_eq (h : volume.SameTables disk disk') (hflushed : volume.Flushed disk)
    (hflushed' : volume.Flushed disk') {s : SectorId} {k : Fin sectorSize}
    (hplace : (s, k) ∈ volume.tablePlaces disk) : (disk'.get s).get k = (disk.get s).get k := by
  rcases hplace with hplace | hplace
  · exact FileHeader.get_eq_of_contents_eq h.freeMapFile_eq
      (hflushed'.freeMap_eq.trans hflushed.freeMap_eq.symm) hplace
  · exact FileHeader.get_eq_of_contents_eq h.directoryFile_eq
      (hflushed'.directory_eq.trans hflushed.directory_eq.symm) hplace

end SameTables

/-- What comes of a write, told by the bytes of the file and by its header. -/
structure Wrote (volume : Volume) (disk : Disk) (lost : List SectorId) (i : Fin numEntries)
    (header : FileHeader) (offset : Nat) (data : Bytes) (written : Nat) (header' : FileHeader)
    (volume' : Volume) (disk' : Disk) : Prop where
  /-- What becomes of the bytes and of the other files. -/
  outcome : volume.Written disk lost i (header.contents disk) offset data written volume' disk'
  /-- What becomes of the header, and which bytes are touched. -/
  changes : volume.Rewritten disk i header offset data written header' volume' disk'

namespace Rewritten

/-- All places that a write may change: those of the header, of the tables and of the file. -/
theorem sameBytesOff_all
    (h : volume.Rewritten disk i header offset data written header' volume' disk') :
    disk.SameBytesOff ({p | p.1 = (volume.directory.entry i).header} ∪
      (volume.tablePlaces disk ∪ header'.places disk' ⟨0, header'.length⟩)) disk' := by
  refine h.sameBytesOff.mono ?_
  rintro p (hhome | htable | hplace)
  · exact .inl hhome.1
  · refine .inr (.inl ?_)
    split at htable
    · exact htable.elim
    · exact htable
  · refine .inr (.inr (FileHeader.places_subset (fun k _ hk => ?_) hplace))
    exact ⟨Nat.zero_le k, Nat.lt_of_lt_of_le hk (Nat.min_le_right _ _)⟩

/-- A write of nothing to a file that stays as long as it is changes nothing but the clock. -/
theorem eq_of_nothing
    (h : volume.Rewritten disk i header offset [] written header' volume' disk')
    (hlength : header'.length = header.length) :
    volume' = volume.withClock volume'.clock ∧ disk.SameOff [] disk' := by
  have hnone : written = 0 := by
    rw [h.written_eq, List.length_nil, Nat.zero_min]
  constructor
  · rw [h.fields_eq, (h.eq_of_length_eq hlength).2]
    rfl
  · refine h.sameBytesOff.sameOff fun s k hplace => ?_
    rcases hplace with hhome | htable | ⟨k, hstart, hstop, -⟩
    · exact absurd hhome.2 (by omega)
    · rw [if_pos hlength] at htable
      exact htable.elim
    · simp only [List.length_nil] at hstart hstop
      omega

/-- The sectors that a file gets in two steps are those that it gets in one, since they are the
lowest free ones both times. -/
theorem joins {offset₁ offset₂ written₁ written₂ : Nat} {first second : Bytes}
    (h : volume.Rewritten disk i header offset data written header' volume' disk')
    (hfirst : volume.Rewritten disk i header offset₁ first written₁ header₁ volume₁ disk₁)
    (hsecond : volume₁.Rewritten disk₁ i header₁ offset₂ second written₂ header₂ volume₂ disk₂)
    (hcons : header'.IsConsistent) (hcons₂ : header₂.IsConsistent)
    (hlength : header₂.length = header'.length) (hmodified : header₂.modified = header'.modified) :
    header₂ = header' ∧ volume₂ = volume'.withClock volume₂.clock ∧
      header₂.dataSectors disk₂ = header'.dataSectors disk' := by
  obtain ⟨fresh, htakes, hdata⟩ := h.exists_takes
  obtain ⟨fresh₁, htakes₁, hdata₁⟩ := hfirst.exists_takes
  obtain ⟨fresh₂, htakes₂, hdata₂⟩ := hsecond.exists_takes
  rw [hdata₁, List.append_assoc] at hdata₂
  -- both ways the file gets as many sectors as its final length asks for
  have hcount : (fresh₁ ++ fresh₂).length = fresh.length := by
    have hall := congrArg List.length hdata
    have hall₂ := congrArg List.length hdata₂
    rw [List.length_append, hcons.length_dataSectors, FileHeader.sectorCount] at hall
    rw [List.length_append, hcons₂.length_dataSectors, FileHeader.sectorCount, hlength] at hall₂
    omega
  obtain ⟨hfresh, hmap⟩ := (htakes₁.append htakes₂).eq_of_length_eq htakes hcount
  rw [hfresh, ← hdata] at hdata₂
  have hindex : header₂.indexSectors = header'.indexSectors := by
    rw [hsecond.indexSectors_eq, hfirst.indexSectors_eq, h.indexSectors_eq]
  refine ⟨?_, ?_, hdata₂⟩
  · have hbytes : header₂.numBytes = header'.numBytes := UInt32.toNat_inj.1 hlength
    rw [hsecond.header_eq, hfirst.header_eq, h.header_eq]
    simp only [hbytes, hmodified, FileHeader.map_eq_of_sectors_eq hdata₂ hindex]
  · rw [hsecond.fields_eq, hfirst.fields_eq, h.fields_eq, hmap]
    rfl

/-- The places of a file are still its places when it has got more sectors. -/
theorem places_subset
    (h : volume.Rewritten disk i header offset data written header' volume' disk')
    (hcons : header.IsConsistent) :
    header.places disk ⟨0, header.length⟩ ⊆ header'.places disk' ⟨0, header'.length⟩ := by
  obtain ⟨fresh, -, hdata⟩ := h.exists_takes
  have hle : header.length ≤ header'.length := h.length_eq ▸ FileHeader.le_reach _ _ _
  rintro _ ⟨k, hstart, hstop, rfl⟩
  refine ⟨k, hstart, Nat.lt_of_lt_of_le hstop hle, ?_⟩
  have hblock : k / sectorSize < (header.dataSectors disk).length := by
    rw [hcons.length_dataSectors]
    exact FileHeader.div_lt_sectorCount hstop
  rw [FileHeader.sectorOf, FileHeader.sectorOf, hdata, List.getD_append _ _ _ _ hblock]

end Rewritten

namespace Wrote

variable {first second : Bytes} {written₁ written₂ : Nat}

/-- A write leaves the headers and the numbers of sectors of all others alone. -/
theorem get_eq_of_mem_metaSectors
    (h : volume.Wrote disk lost i header offset data written header' volume' disk')
    (hintact : volume.Intact disk lost) (hheader : volume.header? disk i = some header) {o : Owner}
    (ho : o ≠ .entry i) {s : SectorId} (hs : s ∈ volume.metaSectors disk o) :
    disk'.get s = disk.get s := by
  have hintact' := h.outcome.intact
  have hheader' := h.changes.header?_eq
  refine (h.changes.sameOff hintact).2 s fun hmem => ?_
  rcases List.mem_cons.1 hmem with rfl | hmem
  · exact ho (hintact.partition.owner_eq (metaSectors_subset _ hs)
      (metaSectors_subset _ (Intact.header_mem hheader)))
  rcases List.mem_append.1 hmem with htable | hdata
  · split at htable
    · exact absurd htable List.not_mem_nil
    · rcases List.mem_append.1 htable with htable | htable
      · exact hintact.notMem_metaSectors (o := .freeMapFile) htable hs
      · exact hintact.notMem_metaSectors (o := .directoryFile) htable hs
  · have hfile : s ∈ volume'.dataSectors disk' lost (.entry i) := by
      rw [dataSectors_entry hheader']
      exact (hintact'.placed hheader').sectorsIn_subset_dataSectors _ hdata
    exact hintact'.notMem_metaSectors hfile ((h.outcome.metaSectors_eq o).symm ▸ hs)

/-- The other files keep their headers. -/
theorem header?_of_ne
    (h : volume.Wrote disk lost i header offset data written header' volume' disk')
    (hintact : volume.Intact disk lost) (hheader : volume.header? disk i = some header)
    {j : Fin numEntries} (hj : j ≠ i) : volume'.header? disk' j = volume.header? disk j := by
  refine hintact.header?_congr (by rw [h.outcome.directory_eq]) fun s hs => ?_
  exact h.get_eq_of_mem_metaSectors hintact hheader (by simpa using hj) hs

/-- A write leaves the tables' files in their sectors. -/
theorem sameTables (h : volume.Wrote disk lost i header offset data written header' volume' disk')
    (hintact : volume.Intact disk lost) (hheader : volume.header? disk i = some header) :
    volume.SameTables disk disk' := by
  refine .of_get_eq fun o ho s hs => h.get_eq_of_mem_metaSectors hintact hheader ?_ hs
  rcases ho with rfl | rfl <;> nofun

theorem isConsistent
    (h : volume.Wrote disk lost i header offset data written header' volume' disk') :
    header'.IsConsistent :=
  h.outcome.intact.isConsistent h.changes.header?_eq

/-- The file that was written in two steps has the bytes of the one that was written in one. -/
theorem contents_eq_of_joined
    (h : volume.Wrote disk lost i header offset (first ++ second) written header' volume' disk')
    (h₁ : volume.Wrote disk lost i header offset first written₁ header₁ volume₁ disk₁)
    (h₂ : volume₁.Wrote disk₁ lost i header₁ (offset + first.length) second written₂ header'
      volume₂ disk₂)
    (hlength₁ : header₁.length = max header.length (offset + first.length))
    (hlength : header'.length = max header.length (offset + (first ++ second).length)) :
    header'.contents disk₂ = header'.contents disk' := by
  have hoverlay := Bytes.overlay_append (header.contents disk) offset first second
  rw [FileHeader.length_contents, ← hlength₁, ← hlength] at hoverlay
  rw [h₂.changes.contents_eq h₂.outcome, h₁.changes.contents_eq h₁.outcome, hoverlay,
    h.changes.contents_eq h.outcome]

/-- Two writes in a row change no more than the write of both parts at once. -/
theorem sameBytesOff_of_joined
    (h₁ : volume.Wrote disk lost i header offset first written₁ header₁ volume₁ disk₁)
    (h₂ : volume₁.Wrote disk₁ lost i header₁ (offset + first.length) second written₂ header'
      volume₂ disk₂) (hintact : volume.Intact disk lost)
    (hheader : volume.header? disk i = some header)
    (hdata : header'.dataSectors disk₂ = header'.dataSectors disk') :
    disk.SameBytesOff ({p | p.1 = (volume.directory.entry i).header} ∪
      (volume.tablePlaces disk ∪ header'.places disk' ⟨0, header'.length⟩)) disk₂ := by
  have htables : volume₁.tablePlaces disk₁ = volume.tablePlaces disk := by
    rw [h₁.changes.fields_eq]
    exact (h₁.sameTables hintact hheader).tablePlaces_eq
  have hgrown := h₂.changes.places_subset h₁.isConsistent
  refine (h₁.changes.sameBytesOff_all.trans h₂.changes.sameBytesOff_all).mono ?_
  rw [h₁.outcome.directory_eq, htables, FileHeader.places_congr hdata]
  rw [FileHeader.places_congr hdata] at hgrown
  rintro p ((hplace | hplace | hplace) | hplace)
  · exact .inl hplace
  · exact .inr (.inl hplace)
  · exact .inr (.inr (hgrown hplace))
  · exact hplace

/-- What two writes in a row leave on the disk is what the write of both parts at once leaves. -/
theorem sameOff_of_joined
    (h : volume.Wrote disk lost i header offset (first ++ second) written header' volume' disk')
    (h₁ : volume.Wrote disk lost i header offset first written₁ header₁ volume₁ disk₁)
    (h₂ : volume₁.Wrote disk₁ lost i header₁ (offset + first.length) second written₂ header'
      volume₂ disk₂)
    (hintact : volume.Intact disk lost) (hflushed : volume.Flushed disk)
    (hheader : volume.header? disk i = some header)
    (hlength₁ : header₁.length = max header.length (offset + first.length))
    (hlength : header'.length = max header.length (offset + (first ++ second).length))
    (hwritten : 0 < written) (hwritten₂ : 0 < written₂)
    (hvolume : volume₂ = volume'.withClock volume₂.clock)
    (hdata : header'.dataSectors disk₂ = header'.dataSectors disk') : disk'.SameOff [] disk₂ := by
  refine h.changes.sameBytesOff_all.agree (h₁.sameBytesOff_of_joined h₂ hintact hheader hdata)
    fun s k hplace => ?_
  rcases hplace with rfl | hplace | hplace
  · -- both times the header was written last, with the same stamp
    have hself := (h.changes.stamped (.inl hwritten)).2
    have hself₂ := (h₂.changes.stamped (.inl hwritten₂)).2
    rw [h₁.outcome.directory_eq] at hself₂
    rw [hself, hself₂]
  · -- the tables are in the same sectors all along, and are flushed both times
    have htables := h.sameTables hintact hheader
    have htables₂ : volume.SameTables disk disk₂ := (h₁.sameTables hintact hheader).trans
      ((h₂.sameTables h₁.outcome.intact h₁.changes.header?_eq).congr
        (by rw [h₁.changes.fields_eq]) (by rw [h₁.changes.fields_eq]))
    have hsame : volume'.SameTables disk' disk₂ :=
      (htables.symm.trans htables₂).congr (by rw [h.changes.fields_eq])
        (by rw [h.changes.fields_eq])
    have hflushed₂ := h₂.outcome.flushed (h₁.outcome.flushed hflushed)
    rw [hvolume] at hflushed₂
    refine hsame.get_eq (h.outcome.flushed hflushed)
      ⟨hflushed₂.freeMap_eq, hflushed₂.directory_eq⟩ ?_
    rw [h.changes.fields_eq]
    exact htables.tablePlaces_eq ▸ hplace
  · -- the bytes of the file come out the same, and so do the sectors that hold them
    exact FileHeader.get_eq_of_contents_eq hdata (h.contents_eq_of_joined h₁ h₂ hlength₁ hlength)
      hplace

/-- A write that is completed makes the file end behind the data, or where it did. -/
theorem length_eq_of_completed
    (h : volume.Wrote disk lost i header offset data data.length header' volume' disk')
    (hdata : data ≠ []) :
    header'.length = max header.length (offset + data.length) ∧
      offset + data.length ≤
        FileHeader.reach header.length volume.numFree (offset + data.length) := by
  have hlength := h.changes.length_eq
  have hwritten := h.changes.written_eq
  have hpos := List.length_pos_iff.2 hdata
  have hreach : offset + data.length ≤
      FileHeader.reach header.length volume.numFree (offset + data.length) := by omega
  exact ⟨hlength.trans (FileHeader.reach_eq_max_of_le hreach), hreach⟩

/-- The sectors that a write takes are no longer free. -/
theorem numFree_eq
    (h : volume.Wrote disk lost i header offset data written header' volume' disk') :
    volume'.numFree + totalSectorsFor header'.length =
      volume.numFree + totalSectorsFor header.length := by
  have hfree := h.outcome.numFree_eq
  rwa [FileHeader.length_contents, ← h.changes.length_eq] at hfree

end Wrote

/-- A write through an open file runs through, and has written what it says. -/
theorem Intact.exists_wrote {file : OpenFile} (h : volume.Intact disk lost)
    (hlists : volume.Lists file.headerSector i)
    (hheader : volume.header? disk i = some header) {offset : Nat} {data : Bytes}
    (hsum : offset + data.length < sumLimit) :
    ∃ written header' volume' disk',
      (file.writeAt volume offset data).run disk = (.ok (written, volume'), disk') ∧
        volume.Wrote disk lost i header offset data written header' volume' disk' := by
  obtain ⟨⟨written, volume'⟩, disk', hrun, hwritten, header', hrewritten⟩ :=
    h.yields_rewrite hlists hheader hsum
  exact ⟨written, header', volume', disk', hrun, hwritten, hrewritten⟩

/-- A write of nothing behind one that was completed changes nothing but the clock. -/
theorem Wrote.exists_writeAt_nil {file : OpenFile}
    (h : volume.Wrote disk lost i header offset data written header' volume' disk')
    (hlists : volume.Lists file.headerSector i) (hsum : offset + data.length < sumLimit) :
    ∃ volume₂ disk₂, (file.writeAt volume' (offset + data.length) []).run disk' =
        (.ok (0, volume₂), disk₂) ∧
      volume₂ = volume'.withClock volume₂.clock ∧ disk'.SameOff [] disk₂ := by
  have hsum' : offset + data.length + ([] : Bytes).length < sumLimit := hsum
  obtain ⟨written₂, header₂, volume₂, disk₂, hrun, h₂⟩ :=
    h.outcome.intact.exists_wrote (h.outcome.changesOnly.lists hlists) h.changes.header?_eq hsum'
  have hnone : written₂ = 0 := by
    rw [h₂.changes.written_eq, List.length_nil, Nat.zero_min]
  have hfree := h.numFree_eq
  have hlength : header₂.length = header'.length := by
    rw [h.changes.length_eq] at hfree
    rw [h₂.changes.length_eq, h.changes.length_eq, List.length_nil, Nat.add_zero,
      FileHeader.reach_self hfree]
  exact ⟨volume₂, disk₂, hnone ▸ hrun, h₂.changes.eq_of_nothing hlength⟩

/-- A write that is completed can be made in two: both parts are accepted in full, and volume and
disk end up the same. -/
theorem Intact.exists_writeAt_append {file : OpenFile} {first second : Bytes}
    (h : volume.Intact disk lost) (hflushed : volume.Flushed disk)
    (hlists : volume.Lists file.headerSector i) (hsteady : volume.clock.IsSteady)
    (hrun : (file.writeAt volume offset (first ++ second)).run disk =
      (.ok ((first ++ second).length, volume'), disk')) :
    ∃ volume₁ disk₁ volume₂ disk₂,
      (file.writeAt volume offset first).run disk = (.ok (first.length, volume₁), disk₁) ∧
      (file.writeAt volume₁ (offset + first.length) second).run disk₁ =
        (.ok (second.length, volume₂), disk₂) ∧
      volume₁.clock.IsSteady ∧ volume₂ = volume'.withClock volume₂.clock ∧
      disk'.SameOff [] disk₂ := by
  obtain ⟨header, hheader, -⟩ := h.exists_header i hlists.1
  have hsum := (OpenFile.always_writeAt_fits file volume offset (first ++ second)).of_run hrun
  obtain ⟨written, header', volume'', disk'', hrun', hwhole⟩ := h.exists_wrote hlists hheader hsum
  rw [hrun, Prod.mk.injEq, Except.ok.injEq, Prod.mk.injEq] at hrun'
  obtain ⟨⟨rfl, rfl⟩, rfl⟩ := hrun'
  rw [List.length_append, ← Nat.add_assoc] at hsum
  have hsum₁ : offset + first.length < sumLimit := Nat.lt_of_le_of_lt (Nat.le_add_right _ _) hsum
  rcases eq_or_ne second [] with rfl | hsecond
  · rw [List.append_nil] at hrun hwhole
    obtain ⟨volume₂, disk₂, hrun₂, hsame⟩ := hwhole.exists_writeAt_nil hlists hsum₁
    exact ⟨volume', disk', volume₂, disk₂, hrun, hrun₂,
      hsteady.congr hwhole.changes.readings_eq, hsame⟩
  -- the file ends behind each of the parts in turn, unless it did so before
  obtain ⟨written₁, header₁, volume₁, disk₁, hrun₁, h₁⟩ :=
    h.exists_wrote hlists hheader hsum₁
  obtain ⟨written₂, header₂, volume₂, disk₂, hrun₂, h₂⟩ :=
    h₁.outcome.intact.exists_wrote (h₁.outcome.changesOnly.lists hlists) h₁.changes.header?_eq hsum
  have hpos := List.length_pos_iff.2 hsecond
  obtain ⟨hlength, hreach⟩ := hwhole.length_eq_of_completed (by simp [hsecond])
  rw [List.length_append, ← Nat.add_assoc] at hlength hreach
  have hstop : offset + first.length ≤ offset + first.length + second.length :=
    Nat.le_add_right _ _
  have hlength₁ : header₁.length = max header.length (offset + first.length) :=
    h₁.changes.length_eq.trans (FileHeader.reach_of_le hstop hreach)
  have hfree := h₁.numFree_eq
  rw [h₁.changes.length_eq] at hfree
  have hlength₂ : header₂.length = header'.length := by
    rw [h₂.changes.length_eq, h₁.changes.length_eq, FileHeader.reach_reach hstop hreach hfree,
      hlength]
  have hcount₁ : written₁ = first.length := by
    rw [h₁.changes.written_eq, hlength₁]
    omega
  have hcount₂ : written₂ = second.length := by
    rw [h₂.changes.written_eq, hlength₂, hlength]
    omega
  -- both are stamped at last, and with the same text
  have hmodified : header₂.modified = header'.modified := by
    rw [(h₂.changes.stamped (.inl (by omega))).1,
      (hwhole.changes.stamped (.inl (by simp; omega))).1]
    exact congrArg FixedText.ofString
      ((congrFun h₁.changes.readings_eq _).trans (hsteady _ _))
  obtain ⟨rfl, hvolume, hdata⟩ := hwhole.changes.joins h₁.changes h₂.changes
    hwhole.isConsistent h₂.isConsistent hlength₂ hmodified
  refine ⟨volume₁, disk₁, volume₂, disk₂, hcount₁ ▸ hrun₁, hcount₂ ▸ hrun₂,
    hsteady.congr h₁.changes.readings_eq, hvolume, ?_⟩
  refine hwhole.sameOff_of_joined h₁ h₂ h hflushed hheader hlength₁ ?_ (by simp; omega) (by omega)
    hvolume hdata
  rw [hlength, List.length_append, Nat.add_assoc]

end Volume

end SectorStore
