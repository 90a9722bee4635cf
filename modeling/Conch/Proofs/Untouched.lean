import Conch.Host.World
import Mathlib.Data.List.Basic

/-!
Volumes that agree except at one path. Looking for a written path asks what is at the
directories on the way and at its end (`Volume.wayOf`). If the path that is left out is
not among them, then looking gives the same in both volumes, and so does opening what is
found:

* `walk_congr`, `openRead_congr`: what is found and what is opened are the same;
* `openWrite_congr`, `write_congr`: the volumes after opening and writing still agree, and
  what is at the path that is left out has not changed;
* `readAll_congr`: reading gives the same.

The path that is left out is optional: volumes that agree except nowhere are equal.
-/

namespace Conch

/-- The path of what a written path leads to. -/
def Place.path : Place → Path
  | .existing path _ => path
  | .free path => path

/-- A channel that is not an open file at a path. -/
def Channel.IsOff (skip : Option Path) : Channel → Prop
  | .pipe _ => True
  | .file path _ _ => some path ≠ skip

namespace Volume

/-! ### Leaving out a path -/

/-- The volume without what is at a path. -/
def leavingOut (skip : Option Path) (volume : Volume) : Volume :=
  ⟨volume.entries.filter fun entry => some entry.1 ≠ skip⟩

theorem lookup_filter {skip : Option Path} {path : Path} (h : some path ≠ skip)
    (entries : List (Path × Entry)) :
    (entries.filter fun entry => some entry.1 ≠ skip).lookup path = entries.lookup path := by
  induction entries with
  | nil => rfl
  | cons entry rest ih =>
      obtain ⟨name, value⟩ := entry
      by_cases hname : path = name
      · subst hname
        rw [List.filter_cons_of_pos (by simpa using h), List.lookup_cons_self,
          List.lookup_cons_self]
      · have hne : (path == name) = false := by simpa using hname
        rw [List.lookup_cons, hne]
        by_cases hskip : some name = skip
        · rw [List.filter_cons_of_neg (by simpa using hskip), ih]
        · rw [List.filter_cons_of_pos (by simpa using hskip), List.lookup_cons, hne, ih]

theorem get?_leavingOut {skip : Option Path} {path : Path} (h : some path ≠ skip)
    (volume : Volume) : (volume.leavingOut skip).get? path = volume.get? path := by
  rw [get?, get?, leavingOut, lookup_filter h]

theorem get?_congr {skip : Option Path} {volume other : Volume}
    (hvolume : volume.leavingOut skip = other.leavingOut skip) {path : Path}
    (h : some path ≠ skip) : volume.get? path = other.get? path := by
  rw [← get?_leavingOut h, hvolume, get?_leavingOut h]

/-! ### Putting an entry -/

/-- What `put` does to an entry that is there. -/
def replacing (path : Path) (entry : Entry) (old : Path × Entry) : Path × Entry :=
  if old.1 = path then (path, entry) else old

theorem put_of_some {volume : Volume} {path : Path} (entry : Entry)
    (h : (volume.entries.lookup path).isSome) :
    volume.put path entry = ⟨volume.entries.map (replacing path entry)⟩ := by
  rw [put, if_pos h]
  rfl

theorem put_of_none {volume : Volume} {path : Path} (entry : Entry)
    (h : volume.entries.lookup path = none) :
    volume.put path entry = ⟨volume.entries ++ [(path, entry)]⟩ := by
  rw [put, if_neg (by simp only [h, Option.isSome_none, Bool.false_eq_true, not_false_iff])]

theorem fst_replacing (path : Path) (entry : Entry) (old : Path × Entry) :
    (replacing path entry old).1 = old.1 := by
  rw [replacing]
  split_ifs with h
  · exact h.symm
  · rfl

theorem lookup_map_replacing (path : Path) (entry : Entry) (other : Path)
    (entries : List (Path × Entry)) :
    (entries.map (replacing path entry)).lookup other =
      if other = path then (entries.lookup other).map fun _ => entry
      else entries.lookup other := by
  induction entries with
  | nil => simp
  | cons old rest ih =>
      obtain ⟨name, value⟩ := old
      rw [List.map_cons, replacing]
      by_cases hother : other = name
      · subst hother
        by_cases hpath : other = path
        · subst hpath
          simp
        · simp [hpath]
      · have hne : (other == name) = false := by simpa using hother
        by_cases hname : name = path
        · subst hname
          simp only [if_true, List.lookup_cons, hne, ih]
        · simp only [hname, if_false, List.lookup_cons, hne, ih]

theorem get?_put_self {path : Path} (h : path ≠ []) (volume : Volume) (entry : Entry) :
    (volume.put path entry).get? path = some entry := by
  rw [get?, if_neg h]
  cases hold : volume.entries.lookup path with
  | some old =>
      rw [put_of_some entry (by rw [hold]; rfl)]
      show (volume.entries.map (replacing path entry)).lookup path = some entry
      rw [lookup_map_replacing, if_pos rfl, hold]
      rfl
  | none =>
      rw [put_of_none entry hold]
      show (volume.entries ++ [(path, entry)]).lookup path = some entry
      rw [List.lookup_append, hold, List.lookup_cons_self]
      rfl

theorem get?_put_ne {path other : Path} (h : other ≠ path) (volume : Volume) (entry : Entry) :
    (volume.put path entry).get? other = volume.get? other := by
  by_cases hroot : other = []
  · rw [get?, get?, if_pos hroot, if_pos hroot]
  · rw [get?, get?, if_neg hroot, if_neg hroot]
    cases hold : volume.entries.lookup path with
    | some old =>
        rw [put_of_some entry (by rw [hold]; rfl)]
        show (volume.entries.map (replacing path entry)).lookup other = _
        rw [lookup_map_replacing, if_neg h]
    | none =>
        have hne : (other == path) = false := by simpa using h
        rw [put_of_none entry hold]
        show (volume.entries ++ [(path, entry)]).lookup other = _
        rw [List.lookup_append, List.lookup_cons, hne]
        simp

theorem filter_map_replacing (skip : Option Path) (path : Path) (entry : Entry)
    (entries : List (Path × Entry)) :
    ((entries.map (replacing path entry)).filter fun e => some e.1 ≠ skip) =
      (entries.filter fun e => some e.1 ≠ skip).map (replacing path entry) := by
  rw [List.filter_map]
  congr 1
  apply List.filter_congr
  intro old _
  simp only [Function.comp_apply, fst_replacing]

/-- Putting something at the path that is left out changes nothing else. -/
theorem leavingOut_put_self (path : Path) (volume : Volume) (entry : Entry) :
    (volume.put path entry).leavingOut (some path) = volume.leavingOut (some path) := by
  cases hold : volume.entries.lookup path with
  | some old =>
      rw [put_of_some entry (by rw [hold]; rfl), leavingOut, leavingOut, filter_map_replacing]
      congr 1
      have hmap : ∀ e ∈ volume.entries.filter fun e => some e.1 ≠ some path,
          replacing path entry e = e := by
        intro e he
        have hne : e.1 ≠ path := by simpa using (List.mem_filter.mp he).2
        rw [replacing, if_neg hne]
      rw [List.map_congr_left hmap, List.map_id']
  | none =>
      rw [put_of_none entry hold, leavingOut, leavingOut, List.filter_append]
      simp

theorem leavingOut_put {skip : Option Path} {path : Path} (h : some path ≠ skip)
    (volume : Volume) (entry : Entry) :
    (volume.put path entry).leavingOut skip = (volume.leavingOut skip).put path entry := by
  have hlookup : (volume.leavingOut skip).entries.lookup path = volume.entries.lookup path :=
    lookup_filter h volume.entries
  cases hold : volume.entries.lookup path with
  | some old =>
      rw [put_of_some entry (by rw [hold]; rfl), put_of_some entry (by rw [hlookup, hold]; rfl)]
      simp only [leavingOut, filter_map_replacing]
  | none =>
      rw [put_of_none entry hold, put_of_none entry (hlookup.trans hold)]
      simp only [leavingOut, List.filter_append]
      rw [List.filter_cons_of_pos (by simpa using h), List.filter_nil]

/-! ### The way to a written path -/

/-- The paths that walking the names of a written path may ask about. -/
def way (here : Path) : List Text → List Path
  | [] => [here]
  | name :: rest =>
    here ::
      if name = ("." : Text) then way here rest
      else if name = (".." : Text) then way here.dropLast rest
      else way (here ++ [name]) rest

/-- The paths that looking for a written path may ask about, seen from a directory. -/
def wayOf (here : Path) (written : Text) : List Path :=
  way (if written.head? = some '/' then [] else here) (names written)

theorem self_mem_way (here : Path) (list : List Text) : here ∈ way here list := by
  cases list with
  | nil => exact List.mem_cons_self
  | cons name rest => exact List.mem_cons_self

variable {skip : Option Path} {volume other : Volume}

/-- **Walking past a path does not depend on what is there.** -/
theorem walk_congr (hvolume : volume.leavingOut skip = other.leavingOut skip) :
    ∀ (list : List Text) (here : Path), (∀ path ∈ way here list, some path ≠ skip) →
      volume.walk here list = other.walk here list := by
  intro list
  induction list with
  | nil =>
      intro here hway
      rw [walk, walk, get?_congr hvolume (hway here (self_mem_way _ _))]
  | cons name rest ih =>
      intro here hway
      have hhere := get?_congr hvolume (hway here (self_mem_way _ _))
      rw [way, List.forall_mem_cons] at hway
      obtain ⟨_, hrest⟩ := hway
      rw [walk, walk, hhere]
      by_cases hdot : name = ("." : Text)
      · rw [if_pos hdot] at hrest
        simp only [if_pos hdot, ih here hrest]
      · rw [if_neg hdot] at hrest
        by_cases hdots : name = (".." : Text)
        · rw [if_pos hdots] at hrest
          simp only [if_pos hdots, if_neg hdot, ih here.dropLast hrest]
        · rw [if_neg hdots] at hrest
          have hnext := get?_congr hvolume (hrest (here ++ [name]) (self_mem_way _ _))
          simp only [if_neg hdots, if_neg hdot, ih (here ++ [name]) hrest, hnext]

/-- What walking finds is on the way. -/
theorem path_mem_way (volume : Volume) :
    ∀ (list : List Text) (here : Path) (place : Place), volume.walk here list = .ok place →
      place.path ∈ way here list := by
  intro list
  induction list with
  | nil =>
      intro here place h
      rw [walk] at h
      split at h
      · cases h
        exact List.mem_cons_self
      · cases h
  | cons name rest ih =>
      intro here place h
      rw [walk] at h
      rw [way]
      apply List.mem_cons_of_mem
      split_ifs at h ⊢ with _ _ _ _ _ hfree
      · exact ih _ _ h
      · exact ih _ _ h
      · exact ih _ _ h
      · cases h
        exact self_mem_way _ _

/-! ### Opening, reading and writing -/

/-- Goes on from where a written path leads, unless the path is empty or too long. -/
def leading {α : Type} (volume : Volume) (here : Path) (written : Text)
    (next : Place → Except OsError α) : Except OsError α :=
  if written.isEmpty then .error .noSuchFile
  else if longestPath < Text.byteLength written then .error .nameTooLong
  else (volume.walk (if written.head? = some '/' then [] else here) (names written)).bind next

theorem leading_congr {α : Type} (hvolume : volume.leavingOut skip = other.leavingOut skip)
    {here : Path} {written : Text} (hway : ∀ path ∈ wayOf here written, some path ≠ skip)
    (next : Place → Except OsError α) :
    volume.leading here written next = other.leading here written next := by
  rw [leading, leading, walk_congr hvolume _ _ hway]

/-- A written path leads nowhere, whatever is to be done at its end, or to a place on its
way. -/
theorem leading_cases (volume : Volume) (here : Path) (written : Text) :
    (∃ error, ∀ (α : Type) (next : Place → Except OsError α),
      volume.leading here written next = .error error) ∨
    ∃ place : Place, place.path ∈ wayOf here written ∧
      ∀ (α : Type) (next : Place → Except OsError α),
        volume.leading here written next = next place := by
  by_cases hempty : written.isEmpty
  · exact Or.inl ⟨.noSuchFile, fun α next => by rw [leading, if_pos hempty]⟩
  · by_cases hlong : longestPath < Text.byteLength written
    · exact Or.inl ⟨.nameTooLong, fun α next => by rw [leading, if_neg hempty, if_pos hlong]⟩
    · cases hwalk : volume.walk (if written.head? = some '/' then [] else here) (names written) with
      | error error =>
          refine Or.inl ⟨error, fun α next => ?_⟩
          rw [leading, if_neg hempty, if_neg hlong, hwalk]
          rfl
      | ok place =>
          refine Or.inr ⟨place, path_mem_way volume _ _ _ hwalk, fun α next => ?_⟩
          rw [leading, if_neg hempty, if_neg hlong, hwalk]
          rfl

/-- What is at the end of a written path, which may ask for a directory. -/
def locating (written : Text) : Place → Except OsError Place
  | .existing path .directory => .ok (.existing path .directory)
  | .existing path entry =>
    if written.getLast? = some '/' then .error .notADirectory else .ok (.existing path entry)
  | .free path => .ok (.free path)

theorem locate_eq (volume : Volume) (here : Path) (written : Text) :
    volume.locate here written = volume.leading here written (locating written) := by
  by_cases hempty : written.isEmpty
  · rw [locate, leading, if_pos hempty, if_pos hempty]
    rfl
  · by_cases hlong : longestPath < Text.byteLength written
    · simp only [locate, leading, if_neg hempty, if_pos hlong]
      rfl
    · simp only [locate, leading, if_neg hempty, if_neg hlong]
      cases volume.walk (if written.head? = some '/' then [] else here) (names written) with
      | error error => rfl
      | ok place =>
          cases place with
          | existing path entry => cases entry <;> rfl
          | free path => rfl

/-- Opens for writing what is at the end of a written path. -/
def opening (volume : Volume) (written : Text) (access : Access) (place : Place) :
    Except OsError (Volume × Channel) :=
  if written.getLast? = some '/' then .error .isADirectory
  else
    match place with
    | .existing _ .directory => .error .isADirectory
    | .existing path (.file bytes) =>
      .ok (volume.put path (.file (if access = .append then bytes else [])), .file path 0 access)
    | .existing path _ => .ok (volume, .file path 0 access)
    | .free path => .ok (volume.put path (.file []), .file path 0 access)

theorem openWrite_eq (volume : Volume) (here : Path) (written : Text) (access : Access) :
    volume.openWrite here written access =
      volume.leading here written (volume.opening written access) := by
  by_cases hempty : written.isEmpty
  · rw [openWrite, leading, if_pos hempty, if_pos hempty]
    rfl
  · by_cases hlong : longestPath < Text.byteLength written
    · simp only [openWrite, leading, if_neg hempty, if_pos hlong]
      rfl
    · simp only [openWrite, leading, if_neg hempty, if_neg hlong]
      cases volume.walk (if written.head? = some '/' then [] else here) (names written) with
      | error error => rfl
      | ok place =>
          show _ = opening volume written access place
          unfold opening
          by_cases hslash : written.getLast? = some '/'
          · simp only [if_pos hslash]
            rfl
          · simp only [if_neg hslash]
            cases place with
            | existing path entry => cases entry <;> rfl
            | free path => rfl

/-- Two volumes after the same step: they still agree except at the path, and what is there
has not changed in either. -/
structure StillApart (skip : Option Path) (volume other after otherAfter : Volume) : Prop where
  agree : after.leavingOut skip = otherAfter.leavingOut skip
  kept : ∀ path, skip = some path → after.get? path = volume.get? path
  otherKept : ∀ path, skip = some path → otherAfter.get? path = other.get? path

theorem StillApart.refl (hvolume : volume.leavingOut skip = other.leavingOut skip) :
    StillApart skip volume other volume other :=
  ⟨hvolume, fun _ _ => rfl, fun _ _ => rfl⟩

theorem StillApart.put (hvolume : volume.leavingOut skip = other.leavingOut skip) {path : Path}
    (h : some path ≠ skip) (entry : Entry) :
    StillApart skip volume other (volume.put path entry) (other.put path entry) where
  agree := by rw [leavingOut_put h, leavingOut_put h, hvolume]
  kept := fun q hq => get?_put_ne (fun e => h (by rw [hq, e])) volume entry
  otherKept := fun q hq => get?_put_ne (fun e => h (by rw [hq, e])) other entry

theorem locate_congr (hvolume : volume.leavingOut skip = other.leavingOut skip)
    {here : Path} {written : Text} (hway : ∀ path ∈ wayOf here written, some path ≠ skip) :
    volume.locate here written = other.locate here written := by
  rw [locate_eq, locate_eq, leading_congr hvolume hway]

theorem openRead_congr (hvolume : volume.leavingOut skip = other.leavingOut skip)
    {here : Path} {written : Text} (hway : ∀ path ∈ wayOf here written, some path ≠ skip) :
    volume.openRead here written = other.openRead here written := by
  rw [openRead, openRead, locate_congr hvolume hway]

theorem locating_path {written : Text} {place found : Place}
    (h : locating written place = .ok found) : found.path = place.path := by
  unfold locating at h
  split at h
  · cases h
    rfl
  · split_ifs at h
    cases h
    rfl
  · cases h
    rfl

theorem locate_mem_wayOf {here : Path} {written : Text} {place : Place}
    (h : volume.locate here written = .ok place) : place.path ∈ wayOf here written := by
  rw [locate_eq] at h
  obtain ⟨error, herror⟩ | ⟨found, hmem, hfound⟩ := leading_cases volume here written
  · rw [herror] at h
    cases h
  · rw [hfound] at h
    rw [locating_path h]
    exact hmem

theorem openRead_isOff {here : Path} {written : Text} {channel : Channel}
    (hway : ∀ path ∈ wayOf here written, some path ≠ skip)
    (h : volume.openRead here written = .ok channel) : channel.IsOff skip := by
  rw [openRead] at h
  cases hplace : volume.locate here written with
  | error error =>
      rw [hplace] at h
      cases h
  | ok place =>
      rw [hplace] at h
      cases place with
      | existing path entry =>
          cases h
          exact hway path (locate_mem_wayOf hplace)
      | free path => cases h

/-- Opening for writing past a path does the same in both volumes. -/
theorem opening_congr (hvolume : volume.leavingOut skip = other.leavingOut skip)
    (written : Text) (access : Access) {place : Place} (hplace : some place.path ≠ skip) :
    (∃ error, volume.opening written access place = .error error ∧
      other.opening written access place = .error error) ∨
    ∃ after otherAfter,
      volume.opening written access place = .ok (after, .file place.path 0 access) ∧
      other.opening written access place = .ok (otherAfter, .file place.path 0 access) ∧
      StillApart skip volume other after otherAfter := by
  simp only [opening]
  by_cases hslash : written.getLast? = some '/'
  · exact Or.inl ⟨_, if_pos hslash, if_pos hslash⟩
  · simp only [if_neg hslash]
    cases place with
    | free path => exact Or.inr ⟨_, _, rfl, rfl, .put hvolume hplace _⟩
    | existing path entry =>
        cases entry with
        | directory => exact Or.inl ⟨_, rfl, rfl⟩
        | file bytes => exact Or.inr ⟨_, _, rfl, rfl, .put hvolume hplace _⟩
        | nullDevice => exact Or.inr ⟨_, _, rfl, rfl, .refl hvolume⟩
        | zeroDevice => exact Or.inr ⟨_, _, rfl, rfl, .refl hvolume⟩
        | fullDevice => exact Or.inr ⟨_, _, rfl, rfl, .refl hvolume⟩
        | program name => exact Or.inr ⟨_, _, rfl, rfl, .refl hvolume⟩

/-- **Opening for writing past a path does not depend on what is there**, and leaves it as
it is. -/
theorem openWrite_congr (hvolume : volume.leavingOut skip = other.leavingOut skip)
    {here : Path} {written : Text} (access : Access)
    (hway : ∀ path ∈ wayOf here written, some path ≠ skip) :
    (∃ error, volume.openWrite here written access = .error error ∧
      other.openWrite here written access = .error error) ∨
    ∃ path after otherAfter, some path ≠ skip ∧
      volume.openWrite here written access = .ok (after, .file path 0 access) ∧
      other.openWrite here written access = .ok (otherAfter, .file path 0 access) ∧
      StillApart skip volume other after otherAfter := by
  rw [openWrite_eq, openWrite_eq, leading_congr hvolume hway]
  obtain ⟨error, herror⟩ | ⟨place, hmem, hplace⟩ := leading_cases other here written
  · exact Or.inl ⟨error, herror _ _, herror _ _⟩
  · rw [hplace, hplace]
    have hpath : some place.path ≠ skip := hway _ hmem
    rcases opening_congr hvolume written access hpath with h | ⟨after, otherAfter, h⟩
    · exact Or.inl h
    · exact Or.inr ⟨place.path, after, otherAfter, hpath, h⟩

/-- Opening for writing changes nothing but what is opened. -/
theorem openWrite_only {here : Path} {written : Text} {access opened : Access} {after : Volume}
    {path : Path} {offset : Nat}
    (h : volume.openWrite here written access = .ok (after, .file path offset opened)) :
    after.leavingOut (some path) = volume.leavingOut (some path) := by
  rw [openWrite_eq] at h
  obtain ⟨error, herror⟩ | ⟨place, _, hplace⟩ := leading_cases volume here written
  · rw [herror] at h
    cases h
  · rw [hplace] at h
    unfold opening at h
    by_cases hslash : written.getLast? = some '/'
    · rw [if_pos hslash] at h
      cases h
    · rw [if_neg hslash] at h
      split at h
      · cases h
      · cases h
        exact leavingOut_put_self path volume _
      · cases h
        rfl
      · cases h
        exact leavingOut_put_self path volume _

theorem readAll_congr (hvolume : volume.leavingOut skip = other.leavingOut skip)
    {channel : Channel} (hchannel : channel.IsOff skip) :
    volume.readAll channel = other.readAll channel := by
  cases channel with
  | pipe unread => rfl
  | file path offset access =>
      cases access with
      | read => rw [readAll, readAll, get?_congr hvolume hchannel]
      | write => rfl
      | append => rfl

theorem readAll_isOff {channel after : Channel} (hchannel : channel.IsOff skip) {bytes : Bytes}
    (h : volume.readAll channel = .ok (bytes, after)) : after.IsOff skip := by
  cases channel with
  | pipe unread =>
      cases h
      trivial
  | file path offset access =>
      cases access with
      | read =>
          rw [readAll] at h
          split at h <;> cases h <;> exact hchannel
      | write => cases h
      | append => cases h

theorem write_file (volume : Volume) (path : Path) (offset : Nat) {access : Access}
    (haccess : access ≠ .read) {more : Bytes} (hmore : ¬more.isEmpty) :
    volume.write (.file path offset access) more =
      match volume.get? path with
      | some (.file bytes) =>
        let offset := if access = .append then bytes.length else offset
        .ok (volume.put path (.file (overwrite bytes offset more)),
          .file path (offset + more.length) access)
      | some .fullDevice => .error .noSpace
      | _ => .ok (volume, .file path offset access) := by
  cases access with
  | read => exact absurd rfl haccess
  | write => exact if_neg hmore
  | append => exact if_neg hmore

/-- **Writing past a path does not depend on what is there**, and leaves it as it is. -/
theorem write_congr (hvolume : volume.leavingOut skip = other.leavingOut skip)
    {channel : Channel} (hchannel : channel.IsOff skip) (more : Bytes) :
    (∃ error, volume.write channel more = .error error ∧
      other.write channel more = .error error) ∨
    ∃ after otherAfter channelAfter, channelAfter.IsOff skip ∧
      volume.write channel more = .ok (after, channelAfter) ∧
      other.write channel more = .ok (otherAfter, channelAfter) ∧
      StillApart skip volume other after otherAfter := by
  by_cases hmore : more.isEmpty
  · exact Or.inr ⟨_, _, _, hchannel, if_pos hmore, if_pos hmore, .refl hvolume⟩
  · cases channel with
    | pipe unread => exact Or.inl ⟨.badDescriptor, if_neg hmore, if_neg hmore⟩
    | file path offset access =>
        by_cases hread : access = .read
        · subst hread
          exact Or.inl ⟨.badDescriptor, if_neg hmore, if_neg hmore⟩
        · have hpath : some path ≠ skip := hchannel
          rw [write_file volume path offset hread hmore, write_file other path offset hread hmore,
            get?_congr hvolume hpath]
          cases other.get? path with
          | none => exact Or.inr ⟨_, _, _, hchannel, rfl, rfl, .refl hvolume⟩
          | some entry =>
              cases entry with
              | file bytes =>
                  exact Or.inr ⟨_, _, .file path _ access, hpath, rfl, rfl, .put hvolume hpath _⟩
              | fullDevice => exact Or.inl ⟨_, rfl, rfl⟩
              | directory => exact Or.inr ⟨_, _, _, hchannel, rfl, rfl, .refl hvolume⟩
              | nullDevice => exact Or.inr ⟨_, _, _, hchannel, rfl, rfl, .refl hvolume⟩
              | zeroDevice => exact Or.inr ⟨_, _, _, hchannel, rfl, rfl, .refl hvolume⟩
              | program name => exact Or.inr ⟨_, _, _, hchannel, rfl, rfl, .refl hvolume⟩

theorem overwrite_length (bytes more : Bytes) :
    overwrite bytes bytes.length more = bytes ++ more := by
  rw [overwrite, List.take_length, Nat.sub_self, List.replicate_zero, List.append_nil,
    List.drop_eq_nil_of_le (Nat.le_add_right _ _), List.append_nil]

theorem ne_nil_of_get? {path : Path} {bytes : Bytes}
    (h : volume.get? path = some (.file bytes)) : path ≠ [] := by
  rintro rfl
  cases h

/-- Writing at the end of a file adds to it and changes nothing else. -/
theorem write_at_end {path : Path} {bytes : Bytes}
    (h : volume.get? path = some (.file bytes)) (more : Bytes) :
    ∃ after, volume.write (.file path bytes.length .write) more =
        .ok (after, .file path (bytes ++ more).length .write) ∧
      after.get? path = some (.file (bytes ++ more)) ∧
      after.leavingOut (some path) = volume.leavingOut (some path) := by
  by_cases hempty : more.isEmpty
  · obtain rfl := List.isEmpty_iff.mp hempty
    rw [List.append_nil]
    exact ⟨volume, rfl, h, rfl⟩
  · refine ⟨volume.put path (.file (bytes ++ more)), ?_, ?_, ?_⟩
    · rw [write_file volume path bytes.length (by decide) hempty, h]
      simp only [reduceCtorEq, if_false, overwrite_length, List.length_append]
    · exact get?_put_self (ne_nil_of_get? h) volume _
    · exact leavingOut_put_self path volume _

end Volume

end Conch
