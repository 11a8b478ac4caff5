import Fixtures.FileSystem.Write
import Fixtures.Proofs.FileSystem.Walk

/-!
# File systems with more files

A file system in which regular files were made or overwritten keeps its directories and links, so
every path leads to the same location, where there may be a new file now. Writing a file is such a
change, at the one location that its path leads to.
-/

namespace Fixtures

/-- What of a node is not its time. -/
def Node.lasting (node : Node) : Content × Nat := (node.content, node.mode)

/-- A node that is the same, times apart, as one that is known. -/
theorem Node.exists_of_lasting {known other : Option Node} {node : Node}
    (h : other.map Node.lasting = known.map Node.lasting) (hknown : known = some node) :
    ∃ found, other = some found ∧ found.content = node.content ∧ found.mode = node.mode := by
  rw [hknown, Option.map_some, Option.map_eq_some_iff] at h
  obtain ⟨found, hfound, hlasting⟩ := h
  exact ⟨found, hfound, congrArg Prod.fst hlasting, congrArg Prod.snd hlasting⟩

namespace FileSystem

/-- The bits of a node allow a process what equal bits allow an equal one. -/
theorem allows_of_mode {fs other : FileSystem} (hprivileged : other.privileged = fs.privileged)
    {node found : Node} (hmode : found.mode = node.mode) (wanted : Permission) :
    other.allows wanted found = fs.allows wanted node := by
  simp only [allows, hprivileged, hmode]

/-- What can be entered is no regular file. -/
theorem Enterable.not_regular {fs : FileSystem} {here : Location} (h : fs.Enterable here) :
    ∃ node, fs.node? here = some node ∧ node.content.isRegular = false := by
  obtain ⟨directory, hnode, hdirectory, -⟩ := h
  rw [Node.isDirectory, beq_iff_eq] at hdirectory
  exact ⟨directory, hnode, by rw [hdirectory]; rfl⟩

/-- Where the same directory stands, times apart, an equal process can enter it too. -/
theorem Enterable.of_lasting {fs other : FileSystem} {here : Location} (h : fs.Enterable here)
    (hprivileged : other.privileged = fs.privileged)
    (hsame : (other.node? here).map Node.lasting = (fs.node? here).map Node.lasting) :
    other.Enterable here := by
  obtain ⟨directory, hnode, hdirectory, hallows⟩ := h
  obtain ⟨found, hfound, hcontent, hmode⟩ := Node.exists_of_lasting hsame hnode
  rw [Node.isDirectory, ← hcontent] at hdirectory
  exact ⟨found, hfound, hdirectory, (allows_of_mode hprivileged hmode .search).trans hallows⟩

/-- Where a path leads to the same location and finds the same node there, times apart, it has that
node in both file systems. -/
theorem locate_of_lasting {fs other : FileSystem} {path : Path} {location : Location} {node : Node}
    (hpath : other.destination path = fs.destination path)
    (hsame : (other.node? location).map Node.lasting = (fs.node? location).map Node.lasting)
    (h : fs.locate path = .ok (location, node)) :
    ∃ found, other.locate path = .ok (location, found) ∧ found.content = node.content ∧
      found.mode = node.mode := by
  obtain ⟨slashed, hdestination, hnode, hslashed⟩ := locate_eq_ok_iff.mp h
  obtain ⟨found, hfound, hcontent, hmode⟩ := Node.exists_of_lasting hsame hnode
  rw [Node.isDirectory, ← hcontent] at hslashed
  exact ⟨found, locate_eq_ok_iff.mpr ⟨slashed, hpath.trans hdestination, hfound, hslashed⟩,
    hcontent, hmode⟩

/-- A file system before and after regular files were made or overwritten at some of the `spots`.
Times apart, nothing else differs. -/
structure Filed (spots : Location → Prop) (fs after : FileSystem) : Prop where
  /-- The process stands at the same place. -/
  cwd : after.cwd = fs.cwd
  /-- Permission bits bind the process in both or in neither. -/
  privileged : after.privileged = fs.privileged
  /-- A node is the same, times apart, or it is a regular file at one of the spots, where nothing
  stood before or another regular file did. -/
  node : ∀ location,
    (after.node? location).map Node.lasting = (fs.node? location).map Node.lasting ∨
      spots location ∧ (∀ node, fs.node? location = some node → node.content.isRegular = true) ∧
        ∃ node, after.node? location = some node ∧ node.content.isRegular = true

namespace Filed

/-- Nothing need be made. -/
theorem refl (spots : Location → Prop) (fs : FileSystem) : Filed spots fs fs :=
  ⟨rfl, rfl, fun _ => .inl rfl⟩

/-- Files that are made in two steps are made. -/
theorem trans {spots : Location → Prop} {fs middle after : FileSystem}
    (h : Filed spots fs middle) (h' : Filed spots middle after) : Filed spots fs after := by
  refine ⟨h'.cwd.trans h.cwd, h'.privileged.trans h.privileged, fun location => ?_⟩
  rcases h.node location with hsame | ⟨hspot, hbefore, made, hmade, hregular⟩
  · rcases h'.node location with hsame' | ⟨hspot, hbefore, hafter⟩
    · exact .inl (hsame'.trans hsame)
    · refine .inr ⟨hspot, fun node hnode => ?_, hafter⟩
      obtain ⟨found, hfound, hcontent, -⟩ := Node.exists_of_lasting hsame hnode
      rw [← hcontent]
      exact hbefore found hfound
  · rcases h'.node location with hsame' | ⟨-, -, hafter⟩
    · obtain ⟨found, hfound, hcontent, -⟩ := Node.exists_of_lasting hsame' hmade
      exact .inr ⟨hspot, hbefore, found, hfound, by rw [hcontent, hregular]⟩
    · exact .inr ⟨hspot, hbefore, hafter⟩

/-- More spots allow more. -/
theorem mono {spots more : Location → Prop} {fs after : FileSystem} (h : Filed spots fs after)
    (hmore : ∀ location, spots location → more location) : Filed more fs after := by
  refine ⟨h.cwd, h.privileged, fun location => ?_⟩
  rcases h.node location with hsame | ⟨hspot, hfile⟩
  · exact .inl hsame
  · exact .inr ⟨hmore location hspot, hfile⟩

variable {spots : Location → Prop} {fs after : FileSystem}

/-- What is no regular file stays as it is, times apart. -/
theorem lasting_eq (h : Filed spots fs after) {location : Location} {node : Node}
    (hnode : fs.node? location = some node) (hregular : node.content.isRegular = false) :
    (after.node? location).map Node.lasting = (fs.node? location).map Node.lasting := by
  rcases h.node location with hsame | ⟨-, hbefore, -⟩
  · exact hsame
  · rw [hbefore node hnode] at hregular
    cases hregular

/-- What is no regular file was there before. -/
theorem lasting_eq_after (h : Filed spots fs after) {location : Location} {node : Node}
    (hnode : after.node? location = some node) (hregular : node.content.isRegular = false) :
    (fs.node? location).map Node.lasting = (after.node? location).map Node.lasting := by
  rcases h.node location with hsame | ⟨-, -, made, hmade, hfile⟩
  · exact hsame.symm
  · cases hmade.symm.trans hnode
    rw [hfile] at hregular
    cases hregular

/-- What is new is a regular file. -/
theorem isRegular_of_new (h : Filed spots fs after) {location : Location} {node : Node}
    (hnone : fs.node? location = none) (hnode : after.node? location = some node) :
    node.content.isRegular = true := by
  cases hregular : node.content.isRegular with
  | true => rfl
  | false =>
    obtain ⟨found, hfound, -⟩ := Node.exists_of_lasting (h.lasting_eq_after hnode hregular) hnode
    cases hnone.symm.trans hfound

/-- What is no link does not become one. -/
theorem node_of_not_link (h : Filed spots fs after) {location : Location} {node : Node}
    (hnode : fs.node? location = some node) (hlink : ∀ target, node.content ≠ .link target) :
    ∃ found, after.node? location = some found ∧ ∀ target, found.content ≠ .link target := by
  rcases h.node location with hsame | ⟨-, -, made, hmade, hfile⟩
  · obtain ⟨found, hfound, hcontent, -⟩ := Node.exists_of_lasting hsame hnode
    exact ⟨found, hfound, fun target => hcontent ▸ hlink target⟩
  · refine ⟨made, hmade, fun target htarget => ?_⟩
    rw [htarget] at hfile
    cases hfile

/-- Where no file may be made, a node is there before exactly if it is there after. -/
theorem isSome_node? (h : Filed spots fs after) {location : Location} (hspot : ¬spots location) :
    (after.node? location).isSome = (fs.node? location).isSome := by
  rcases h.node location with hsame | ⟨hhere, -⟩
  · simpa using congrArg Option.isSome hsame
  · exact absurd hhere hspot

/-- The bits of a node allow the same. -/
theorem allows_eq (h : Filed spots fs after) (wanted : Permission) {node found : Node}
    (hmode : found.mode = node.mode) : after.allows wanted found = fs.allows wanted node :=
  allows_of_mode h.privileged hmode wanted

/-- The same locations can be entered. -/
theorem enterable_iff (h : Filed spots fs after) (here : Location) :
    after.Enterable here ↔ fs.Enterable here := by
  constructor
  · intro henter
    obtain ⟨node, hnode, hregular⟩ := henter.not_regular
    exact henter.of_lasting h.privileged.symm (h.lasting_eq_after hnode hregular)
  · intro henter
    obtain ⟨node, hnode, hregular⟩ := henter.not_regular
    exact henter.of_lasting h.privileged (h.lasting_eq hnode hregular)

/-- A walk takes the same way, though a name at its end may have been taken. -/
theorem walk_spot (h : Filed spots fs after) (links : Nat) (here : Location) (todo : List Name)
    (slashed : Bool) :
    (after.walk links here todo slashed).toOption.map Landing.spot =
      (fs.walk links here todo slashed).toOption.map Landing.spot := by
  induction links, here, todo, slashed using walk_induction fs with
  | arrived links here slashed => rw [walk, walk]
  | blocked links here name rest slashed hblocked =>
    obtain ⟨reason, hreason⟩ := walk_of_not_enterable hblocked links name rest slashed
    obtain ⟨reason', hreason'⟩ :=
      walk_of_not_enterable (mt (h.enterable_iff here).mp hblocked) links name rest slashed
    rw [hreason, hreason']
    rfl
  | dot links here rest slashed henter ih =>
    rwa [walk_dot henter, walk_dot ((h.enterable_iff here).mpr henter)]
  | parent links here rest slashed henter ih =>
    rwa [walk_parent henter, walk_parent ((h.enterable_iff here).mpr henter)]
  | long links here name rest slashed henter hlong =>
    rw [walk_long henter hlong, walk_long ((h.enterable_iff here).mpr henter) hlong]
  | missing links here name rest slashed henter hname hnone =>
    have henter' := (h.enterable_iff here).mpr henter
    cases hchild : after.node? (name :: here) with
    | none => rw [walk_missing henter hname hnone, walk_missing henter' hname hchild]
    | some child =>
      -- A new file has the name: it is the end of the walk, or it stands in the way.
      have hfile := h.isRegular_of_new hnone hchild
      have hlink : ∀ target, child.content ≠ .link target := by
        intro target htarget
        rw [htarget] at hfile
        cases hfile
      rw [walk_missing henter hname hnone, walk_node henter' hname hchild hlink]
      cases rest with
      | nil =>
        rw [if_pos rfl, walk]
        rfl
      | cons next rest =>
        have hblocked : ¬after.Enterable (name :: here) := by
          intro hopen
          obtain ⟨node, hnode, hregular⟩ := hopen.not_regular
          cases hchild.symm.trans hnode
          cases hfile.symm.trans hregular
        obtain ⟨reason, hreason⟩ := walk_of_not_enterable hblocked links next rest slashed
        rw [hreason, if_neg (List.cons_ne_nil next rest)]
        rfl
  | node links here name rest slashed node henter hname hchild hnode ih =>
    obtain ⟨found, hfound, hlink⟩ := h.node_of_not_link hchild hnode
    rwa [walk_node henter hname hchild hnode,
      walk_node ((h.enterable_iff here).mpr henter) hname hfound hlink]
  | stuck here name rest slashed node target henter hname hchild htarget =>
    obtain ⟨found, hfound, hcontent, -⟩ :=
      Node.exists_of_lasting (h.lasting_eq hchild (by rw [htarget]; rfl)) hchild
    rw [walk_link_zero henter hname hchild htarget,
      walk_link_zero ((h.enterable_iff here).mpr henter) hname hfound (hcontent.trans htarget)]
  | link links here name rest slashed node target henter hname hchild htarget ih =>
    obtain ⟨found, hfound, hcontent, -⟩ :=
      Node.exists_of_lasting (h.lasting_eq hchild (by rw [htarget]; rfl)) hchild
    rwa [walk_link_succ henter hname hchild htarget,
      walk_link_succ ((h.enterable_iff here).mpr henter) hname hfound (hcontent.trans htarget)]

/-- A path leads to the same location. -/
theorem destination_eq (h : Filed spots fs after) (path : Path) :
    after.destination path = fs.destination path := by
  rw [destination, destination, resolve, resolve, h.cwd]
  split
  · rfl
  · split
    · rfl
    · split
      · rfl
      · exact h.walk_spot ..

/-- A path leads to the same locations. -/
theorem leadsTo_iff (h : Filed spots fs after) (path : Path) (location : Location) :
    after.LeadsTo path location ↔ fs.LeadsTo path location := by
  rw [LeadsTo, LeadsTo, h.destination_eq]

/-- A directory is still what its path leads to, with the same bits. -/
theorem locate_directory (h : Filed spots fs after) {path : Path} {here : Location} {node : Node}
    (hlocate : fs.locate path = .ok (here, node)) (hnode : node.content = .directory) :
    ∃ found, after.locate path = .ok (here, found) ∧ found.content = .directory ∧
      found.mode = node.mode := by
  obtain ⟨-, -, hhere, -⟩ := locate_eq_ok_iff.mp hlocate
  have hlasting := h.lasting_eq hhere (by rw [hnode]; rfl)
  obtain ⟨found, hfound, hcontent, hmode⟩ :=
    locate_of_lasting (h.destination_eq path) hlasting hlocate
  exact ⟨found, hfound, hcontent.trans hnode, hmode⟩

/-- What a path leads to is a directory only if it was one. -/
theorem locate_directory_before (h : Filed spots fs after) {path : Path} {here : Location}
    {node : Node} (hlocate : after.locate path = .ok (here, node))
    (hnode : node.content = .directory) :
    ∃ found, fs.locate path = .ok (here, found) ∧ found.content = .directory := by
  obtain ⟨-, -, hhere, -⟩ := locate_eq_ok_iff.mp hlocate
  have hlasting := h.lasting_eq_after hhere (by rw [hnode]; rfl)
  obtain ⟨found, hfound, hcontent, -⟩ :=
    locate_of_lasting (h.destination_eq path).symm hlasting hlocate
  exact ⟨found, hfound, hcontent.trans hnode⟩

/-- Away from the spots, a path leads to a regular file exactly if it did. -/
theorem locate_regular_iff (h : Filed spots fs after) {path : Path}
    (hspots : ∀ location, fs.LeadsTo path location → ¬spots location) :
    (∃ location node, after.locate path = .ok (location, node) ∧ node.content.isRegular = true) ↔
      ∃ location node, fs.locate path = .ok (location, node) ∧ node.content.isRegular = true := by
  have hsame : ∀ {location slashed}, fs.destination path = some (location, slashed) →
      (after.node? location).map Node.lasting = (fs.node? location).map Node.lasting := by
    intro location slashed hleads
    exact (h.node location).resolve_right fun hspot => hspots location ⟨slashed, hleads⟩ hspot.1
  constructor
  · rintro ⟨location, node, hlocate, hregular⟩
    obtain ⟨slashed, hdestination, -⟩ := locate_eq_ok_iff.mp hlocate
    rw [h.destination_eq] at hdestination
    obtain ⟨found, hfound, hcontent, -⟩ :=
      locate_of_lasting (h.destination_eq path).symm (hsame hdestination).symm hlocate
    exact ⟨location, found, hfound, by rw [hcontent, hregular]⟩
  · rintro ⟨location, node, hlocate, hregular⟩
    obtain ⟨slashed, hdestination, -⟩ := locate_eq_ok_iff.mp hlocate
    obtain ⟨found, hfound, hcontent, -⟩ :=
      locate_of_lasting (h.destination_eq path) (hsame hdestination) hlocate
    exact ⟨location, found, hfound, by rw [hcontent, hregular]⟩

end Filed

/-- A file system before and after the regular file at a location was made or all of its bytes were
replaced. A new file dates its directory, and nothing else differs. -/
structure Written (location : Location) (data : Bytes) (fs after : FileSystem) : Prop where
  /-- The process stands at the same place. -/
  cwd : after.cwd = fs.cwd
  /-- The clock stands still. -/
  now : after.now = fs.now
  /-- Permission bits bind the process in both or in neither. -/
  privileged : after.privileged = fs.privileged
  /-- Only a regular file was replaced. -/
  before : ∀ node, fs.node? location = some node → node.content.isRegular = true
  /-- The file holds these bytes and no others. An old file keeps its bits. -/
  file : after.node? location =
    some ⟨.file data, ((fs.node? location).map Node.mode).getD fs.fileMode, fs.now⟩
  /-- All other locations are as they were, up to the time of the directory of a new file. -/
  others : ∀ other, other ≠ location → after.node? other =
    if fs.node? location = none ∧ other = location.tail then
      (fs.node? other).map fun node => { node with modified := fs.now }
    else fs.node? other

/-- Placing a node changes nodes alone. -/
theorem place_frame (fs : FileSystem) (location : Location) (node : Node) :
    (fs.place location node).cwd = fs.cwd ∧ (fs.place location node).now = fs.now ∧
      (fs.place location node).privileged = fs.privileged := by
  rw [place]
  split
  · exact ⟨rfl, rfl, rfl⟩
  · rw [stamp]
    split <;> exact ⟨rfl, rfl, rfl⟩

/-- Storing bytes in a regular file, new or not, writes them. -/
theorem store_written {fs : FileSystem} {location : Location}
    (h : ∀ node, fs.node? location = some node → node.content.isRegular = true) (data : Bytes) :
    Written location data fs (fs.store location data) := by
  obtain ⟨hcwd, hnow, hprivileged⟩ := fs.place_frame location
    ⟨.file data, ((fs.node? location).map Node.mode).getD fs.fileMode, fs.now⟩
  refine ⟨hcwd, hnow, hprivileged, h, ?_, fun other hother => ?_⟩
  · rw [store, node?_place, if_pos rfl]
  · rw [store, node?_place, if_neg hother]

/-- A written file is a file that was made or overwritten. -/
theorem Written.filed {location : Location} {data : Bytes} {fs after : FileSystem}
    (h : Written location data fs after) : Filed (· = location) fs after := by
  refine ⟨h.cwd, h.privileged, fun other => ?_⟩
  by_cases hother : other = location
  · subst hother
    exact .inr ⟨rfl, h.before, _, h.file, rfl⟩
  · left
    rw [h.others other hother]
    split
    · cases fs.node? other <;> rfl
    · rfl

/-- Of what can be written, only regular files keep the bytes. -/
theorem Sink.ofContent_eq_file_iff {here location : Location} {content : Content} :
    Sink.ofContent here content = .file location ↔
      here = location ∧ content.isRegular = true := by
  cases content <;> simp [Sink.ofContent, Content.isRegular]

/-- The regular file that a path opened for writing leads to, new or not. -/
theorem destination_of_sink {fs : FileSystem} {path : Path} {location : Location}
    (h : fs.sink path = .ok (.file location)) :
    fs.destination path = some (location, false) ∧
      ∀ node, fs.node? location = some node → node.content.isRegular = true := by
  rw [sink] at h
  split at h
  · cases h
  · cases h
  · next parent name hresolve =>
    have hnone : fs.node? (name :: parent) = none :=
      node?_of_walk_free (resolve_eq_ok_iff.mp hresolve).2.2.2
    split at h
    · cases h
    · split at h
      · cases h
        refine ⟨destination_eq_some_iff.mpr ⟨_, hresolve, rfl⟩, fun node hnode => ?_⟩
        cases hnone.symm.trans hnode
      · cases h
  · next here hresolve =>
    split at h
    · cases h
    · next node hnode =>
      split at h
      · cases h
      · split at h
        · obtain ⟨rfl, hregular⟩ := Sink.ofContent_eq_file_iff.mp (Except.ok.inj h)
          refine ⟨destination_eq_some_iff.mpr ⟨_, hresolve, rfl⟩, fun found hfound => ?_⟩
          cases hnode.symm.trans hfound
          exact hregular
        · cases h

/-- A path that leads to no device, pipe or link is refused for writing, or leads to a regular file,
new or not. -/
theorem sink_of_no_device {fs : FileSystem} {path : Path}
    (h : ∀ location node, fs.locate path = .ok (location, node) →
      node.content.isRegular = true ∨ node.content = .directory) :
    (∃ reason, fs.sink path = .error reason) ∨ ∃ location, fs.sink path = .ok (.file location) := by
  rw [sink]
  split
  · exact .inl ⟨_, rfl⟩
  · exact .inl ⟨_, rfl⟩
  · split
    · exact .inl ⟨_, rfl⟩
    · split
      · exact .inr ⟨_, rfl⟩
      · exact .inl ⟨_, rfl⟩
  · next here hresolve =>
    split
    · exact .inl ⟨_, rfl⟩
    · next node hnode =>
      have hfound : fs.locate path = .ok (here, node) := by simp [locate, hresolve, hnode]
      have hkind := h here node hfound
      split
      · exact .inl ⟨_, rfl⟩
      · next hdirectory =>
        split
        · have hregular : node.content.isRegular = true :=
            hkind.resolve_right fun hcontent => hdirectory (by simp [Node.isDirectory, hcontent])
          exact .inr ⟨here, congrArg Except.ok (Sink.ofContent_eq_file_iff.mpr ⟨rfl, hregular⟩)⟩
        · exact .inl ⟨_, rfl⟩

/-- What was written to a path is found there. -/
theorem Written.locate {location : Location} {data : Bytes} {fs after : FileSystem}
    (h : Written location data fs after) {path : Path}
    (hpath : fs.destination path = some (location, false)) :
    ∃ node, after.locate path = .ok (location, node) ∧ node.content = .file data := by
  refine ⟨_, locate_eq_ok_iff.mpr ⟨false, ?_, h.file, ?_⟩, rfl⟩
  · rw [h.filed.destination_eq, hpath]
  · exact fun hslash => absurd hslash Bool.false_ne_true

/-- Writing a file makes or overwrites a file where its path leads, or does nothing. -/
theorem filed_of_writeFile {fs after : FileSystem} {path : Path} {data : Bytes}
    (h : fs.writeFile path data = .ok after) : Filed (fs.LeadsTo path) fs after := by
  rw [writeFile] at h
  split at h
  · cases h
  · next location hsink =>
    cases h
    obtain ⟨hdestination, hregular⟩ := destination_of_sink hsink
    refine (store_written hregular data).filed.mono fun other hother => ?_
    rw [hother]
    exact ⟨false, hdestination⟩
  · cases h
    exact .refl _ fs
  · cases h
    exact .refl _ fs
  · split at h
    · cases h
      exact .refl _ fs
    · cases h

end FileSystem

end Fixtures
