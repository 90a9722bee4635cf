import Conch.Proofs.Untouched
import Conch.Action
import Mathlib.Data.List.Basic

/-!
Sinks, and worlds that differ only in one. In a direct run descriptor 1 is bound to a sink:
to a writing end that someone captures, to the output of the shell itself, or to an open
file. The same run may also be captured. Then the trace of the direct run is the other one
with what was written on descriptor 1 delivered to the sink (`Sink.deliver`), and the worlds
differ only in what the sink contains (`Sink.Apart`).

Inside both runs descriptor 1 may be bound anew, and then it is bound alike in both, so
three bindings of it are compared (`Sink.Binding`).

* `Sink.without_deliver`, `Sink.output_deliver`: delivering what was written on descriptor 1
  is not seen on any other descriptor;
* `Apart.write`, `Apart.openChannel`, `Apart.closeChannel`: what is done alike in both worlds
  keeps them apart in the sink only;
* `Apart.writeSink`: writing to the file of the sink adds to what it holds.
-/

namespace Conch

/-! ### Sinks -/

/-- What descriptor 1 is bound to in the direct run. -/
inductive Sink where
  /-- A writing end that someone captures. -/
  | outlet
  /-- The output of the shell itself. -/
  | shell
  /-- The file at a path, open for writing. -/
  | file (path : Path)
  deriving DecidableEq, Repr

namespace Sink

/-- The endpoint of a sink. -/
def endpoint : Sink → Endpoint
  | .outlet => .outlet 1
  | .shell => .standard 1
  | .file _ => .channel 1

/-- The file of a sink. -/
def path? : Sink → Option Path
  | .file path => some path
  | _ => none

/-- What an event of the captured run is in the direct one. What is written to a file leaves
no event. -/
def deliverEvent : Sink → Event → Trace
  | .outlet, event => [event]
  | .shell, .wrote fd bytes => if fd = 1 then [.shown 1 bytes] else [.wrote fd bytes]
  | .file _, .wrote fd bytes => if fd = 1 then [] else [.wrote fd bytes]
  | _, event => [event]

/-- The trace of the direct run, by that of the captured one. -/
def deliver (sink : Sink) (trace : Trace) : Trace := trace.flatMap sink.deliverEvent

/-- Whether an event is a write to the sink itself by anyone else. -/
def isForeign : Sink → Event → Bool
  | .shell, .shown fd _ => fd == 1
  | _, _ => false

/-- What descriptor 1 is bound to in both runs. -/
inductive Binding where
  /-- To the sink in the direct run; in the other it is captured. -/
  | compared
  /-- To a writing end that is captured in both. -/
  | captured
  /-- To a file that was opened in both. -/
  | opened
  deriving DecidableEq, Repr

namespace Binding

/-- The endpoints of descriptor 1 in the direct run and in the other. -/
def endpoints (sink : Sink) : Binding → Endpoint × Endpoint
  | .compared => (sink.endpoint, .outlet 1)
  | .captured => (.outlet 1, .outlet 1)
  | .opened => (.channel 1, .channel 1)

/-- The trace of the direct run, by that of the other. -/
def deliver (sink : Sink) : Binding → Trace → Trace
  | .compared, trace => sink.deliver trace
  | _, trace => trace

/-- The bytes that the sink gets in the direct run, by the trace of the other. -/
def gained : Binding → Trace → Bytes
  | .compared, trace => Trace.output 1 trace
  | _, _ => []

/-- Whether an event may be in the trace of the captured run: nobody else writes to the
sink, and while descriptor 1 is bound to a file nobody writes on it. -/
def allows (sink : Sink) (binding : Binding) (event : Event) : Bool :=
  !sink.isForeign event && !(binding == .opened && Trace.isOn 1 event)

end Binding

end Sink

/-! ### Traces -/

namespace Trace

theorem output_cons (fd : Nat) (event : Event) (rest : Trace) :
    output fd (event :: rest) = bytesOn fd event ++ output fd rest :=
  List.flatMap_cons

theorem output_append (fd : Nat) (first second : Trace) :
    output fd (first ++ second) = output fd first ++ output fd second :=
  List.flatMap_append

theorem display_append (fd : Nat) (first second : Trace) :
    display fd (first ++ second) = display fd first ++ display fd second :=
  List.flatMap_append

theorem without_cons_on {fd : Nat} {event : Event} (h : isOn fd event = true) (rest : Trace) :
    without fd (event :: rest) = without fd rest :=
  List.filter_cons_of_neg (by simpa using h)

theorem without_cons_off {fd : Nat} {event : Event} (h : isOn fd event = false) (rest : Trace) :
    without fd (event :: rest) = event :: without fd rest :=
  List.filter_cons_of_pos (by simpa using h)

theorem without_append (fd : Nat) (first second : Trace) :
    without fd (first ++ second) = without fd first ++ without fd second :=
  List.filter_append ..

theorem isOn_of_mem_without {fd : Nat} {trace : Trace} {event : Event}
    (h : event ∈ without fd trace) : isOn fd event = false := by
  simpa using (List.mem_filter.mp h).2

/-- An event is a write on one descriptor at most. -/
theorem isOn_unique {fd other : Nat} {event : Event} (h : isOn fd event = true)
    (hother : isOn other event = true) : fd = other := by
  cases event with
  | wrote written bytes =>
      have hfd : written = fd := by simpa [isOn] using h
      have hwritten : written = other := by simpa [isOn] using hother
      exact hfd.symm.trans hwritten
  | _ => cases h

theorem isOn_other {fd other : Nat} {event : Event} (h : isOn fd event = true)
    (hne : other ≠ fd) : isOn other event = false := by
  rw [Bool.eq_false_iff]
  intro hother
  exact hne (isOn_unique hother h)

theorem bytesOn_eq_nil {fd : Nat} {event : Event} (h : isOn fd event = false) :
    bytesOn fd event = [] := by
  cases event with
  | wrote written bytes =>
      have hne : written ≠ fd := by simpa [isOn] using h
      rw [bytesOn, if_neg hne]
  | _ => rfl

theorem output_eq_nil {fd : Nat} {trace : Trace} (h : ∀ event ∈ trace, isOn fd event = false) :
    output fd trace = [] := by
  rw [output, List.flatMap_eq_nil_iff]
  intro event hevent
  exact bytesOn_eq_nil (h event hevent)

/-- Events without bytes can be left out when bytes are collected. -/
theorem flatMap_filter {kept : Event → Bool} {bytes : Event → Bytes}
    (h : ∀ event, kept event = false → bytes event = []) (trace : Trace) :
    (trace.filter kept).flatMap bytes = trace.flatMap bytes := by
  induction trace with
  | nil => rfl
  | cons event rest ih =>
      cases hkept : kept event with
      | true => rw [List.filter_cons_of_pos hkept, List.flatMap_cons, List.flatMap_cons, ih]
      | false =>
          rw [List.filter_cons_of_neg (by simp [hkept]), List.flatMap_cons, h event hkept, ih,
            List.nil_append]

/-- What is taken out of a trace by one descriptor is not what was written on another. -/
theorem output_without {fd other : Nat} (h : other ≠ fd) (trace : Trace) :
    output other (without fd trace) = output other trace :=
  flatMap_filter (fun _ hon => bytesOn_eq_nil (isOn_other (by simpa using hon) h)) trace

end Trace

namespace Sink

variable (sink : Sink)

theorem deliver_cons (event : Event) (rest : Trace) :
    sink.deliver (event :: rest) = sink.deliverEvent event ++ sink.deliver rest :=
  List.flatMap_cons

theorem deliver_append (first second : Trace) :
    sink.deliver (first ++ second) = sink.deliver first ++ sink.deliver second :=
  List.flatMap_append

theorem deliverEvent_eq {event : Event} (h : Trace.isOn 1 event = false) :
    sink.deliverEvent event = [event] := by
  cases event with
  | wrote fd bytes =>
      have hne : fd ≠ 1 := by simpa [Trace.isOn] using h
      cases sink <;> simp [deliverEvent, hne]
  | _ => cases sink <;> rfl

theorem deliver_eq {trace : Trace} (h : ∀ event ∈ trace, Trace.isOn 1 event = false) :
    sink.deliver trace = trace := by
  induction trace with
  | nil => rfl
  | cons event rest ih =>
      rw [List.forall_mem_cons] at h
      obtain ⟨hevent, hrest⟩ := h
      rw [deliver_cons, deliverEvent_eq sink hevent, ih hrest]
      rfl

/-- What is delivered was written on no other descriptor. -/
theorem isOn_of_mem_deliverEvent {fd : Nat} (hfd : fd ≠ 1) {event delivered : Event}
    (hon : Trace.isOn 1 event = true) (h : delivered ∈ sink.deliverEvent event) :
    Trace.isOn fd delivered = false := by
  cases event with
  | wrote written bytes =>
      obtain rfl : written = 1 := by simpa [Trace.isOn] using hon
      cases sink with
      | outlet =>
          rw [List.mem_singleton.mp h]
          exact Trace.isOn_other hon hfd
      | shell =>
          rw [List.mem_singleton.mp h]
          rfl
      | file path => cases h
  | _ => cases hon

theorem output_deliver {fd : Nat} (hfd : fd ≠ 1) (trace : Trace) :
    Trace.output fd (sink.deliver trace) = Trace.output fd trace := by
  induction trace with
  | nil => rfl
  | cons event rest ih =>
      rw [deliver_cons, Trace.output_append, Trace.output_cons, ih]
      cases hon : Trace.isOn 1 event with
      | true =>
          have hnone : Trace.output fd (sink.deliverEvent event) = [] :=
            Trace.output_eq_nil fun _ h => sink.isOn_of_mem_deliverEvent hfd hon h
          rw [hnone, Trace.bytesOn_eq_nil (Trace.isOn_other hon hfd)]
      | false =>
          rw [deliverEvent_eq sink hon, Trace.output_cons]
          simp [Trace.output]

theorem without_deliver {fd : Nat} (hfd : fd ≠ 1) (trace : Trace) :
    Trace.without fd (sink.deliver trace) = sink.deliver (Trace.without fd trace) := by
  induction trace with
  | nil => rfl
  | cons event rest ih =>
      rw [deliver_cons, Trace.without_append, ih]
      cases hon : Trace.isOn 1 event with
      | true =>
          have hkept : Trace.without fd (sink.deliverEvent event) = sink.deliverEvent event := by
            rw [Trace.without, List.filter_eq_self]
            intro delivered hdelivered
            rw [sink.isOn_of_mem_deliverEvent hfd hon hdelivered]
            rfl
          rw [hkept, Trace.without_cons_off (Trace.isOn_other hon hfd), deliver_cons]
      | false =>
          rw [deliverEvent_eq sink hon]
          cases hout : Trace.isOn fd event with
          | true =>
              rw [Trace.without_cons_on hout, Trace.without_cons_on hout]
              rfl
          | false =>
              rw [Trace.without_cons_off hout, Trace.without_cons_off hout, deliver_cons,
                deliverEvent_eq sink hon]
              rfl

namespace Binding

variable (binding : Binding)

theorem deliver_append (first second : Trace) :
    binding.deliver sink (first ++ second) =
      binding.deliver sink first ++ binding.deliver sink second := by
  cases binding with
  | compared => exact sink.deliver_append first second
  | captured => rfl
  | opened => rfl

theorem gained_append (first second : Trace) :
    binding.gained (first ++ second) = binding.gained first ++ binding.gained second := by
  cases binding with
  | compared => exact Trace.output_append 1 first second
  | captured => rfl
  | opened => rfl

theorem deliver_eq {trace : Trace} (h : ∀ event ∈ trace, Trace.isOn 1 event = false) :
    binding.deliver sink trace = trace := by
  cases binding with
  | compared => exact sink.deliver_eq h
  | captured => rfl
  | opened => rfl

theorem gained_eq {trace : Trace} (h : ∀ event ∈ trace, Trace.isOn 1 event = false) :
    binding.gained trace = [] := by
  cases binding with
  | compared => exact Trace.output_eq_nil h
  | captured => rfl
  | opened => rfl

theorem output_deliver {fd : Nat} (hfd : fd ≠ 1) (trace : Trace) :
    Trace.output fd (binding.deliver sink trace) = Trace.output fd trace := by
  cases binding with
  | compared => exact sink.output_deliver hfd trace
  | captured => rfl
  | opened => rfl

theorem without_deliver {fd : Nat} (hfd : fd ≠ 1) (trace : Trace) :
    Trace.without fd (binding.deliver sink trace) =
      binding.deliver sink (Trace.without fd trace) := by
  cases binding with
  | compared => exact sink.without_deliver hfd trace
  | captured => rfl
  | opened => rfl

theorem gained_without {fd : Nat} (hfd : fd ≠ 1) (trace : Trace) :
    binding.gained (Trace.without fd trace) = binding.gained trace := by
  cases binding with
  | compared => exact Trace.output_without (Ne.symm hfd) trace
  | captured => rfl
  | opened => rfl

theorem allows_of_quiet {event : Event} (hforeign : sink.isForeign event = false)
    (hquiet : Trace.isOn 1 event = false) : binding.allows sink event = true := by
  rw [allows, hforeign, hquiet, Bool.and_false]
  rfl

theorem isForeign_of_allows {event : Event} (h : binding.allows sink event = true) :
    sink.isForeign event = false := by
  rw [allows, Bool.and_eq_true] at h
  simpa using h.1

theorem isOn_of_opened_allows {event : Event} (h : opened.allows sink event = true) :
    Trace.isOn 1 event = false := by
  rw [allows, Bool.and_eq_true] at h
  simpa using h.2

end Binding

end Sink

/-! ### Sessions that differ in the sink -/

/-- What is around the files and the open channels of a world. -/
def World.surroundings (w : World) : World :=
  { w with volume := {}, channels := fun _ => .pipe [] }

namespace Sink

/-- A change that does not touch the sink. -/
def Misses (sink : Sink) : Change → Prop
  | .shown fd _ => sink = .shell → fd ≠ 1
  | .added path _ => some path ≠ sink.path?
  | .placed path _ => some path ≠ sink.path?

/-- Two worlds that differ only in the sink. In the direct one, its file holds `bytes` and
is open at its end, unless channel 1 is `live`: then it is in use in both. In the other, the
file and channel 1 are still as they were in the `origin`. -/
structure Apart (sink : Sink) (origin : World) (live : Bool) (bytes : Bytes)
    (direct other : World) : Prop where
  surroundings : direct.surroundings = other.surroundings
  volume : direct.volume.leavingOut sink.path? = other.volume.leavingOut sink.path?
  channels : ∀ n, n ≠ 1 ∨ live = true → direct.channels n = other.channels n
  off : ∀ n, n ≠ 1 ∨ live = true → (other.channels n).IsOff sink.path?
  upcoming : ∀ change ∈ other.upcoming, sink.Misses change.2
  holds : ∀ path, sink.path? = some path → direct.volume.get? path = some (.file bytes)
  place : ∀ path, sink.path? = some path → live = false →
    direct.channels 1 = .file path bytes.length .write
  kept : ∀ path, sink.path? = some path →
    other.volume.get? path = origin.volume.get? path
  keptPlace : live = false → other.channels 1 = origin.channels 1

/-- Two sessions that differ only in the sink. -/
structure Agree (sink : Sink) (origin : World) (live : Bool) (bytes : Bytes)
    (direct other : Session) : Prop where
  scope : direct.scope = other.scope
  world : sink.Apart origin live bytes direct.world other.world

namespace Apart

variable {sink : Sink} {origin : World} {live : Bool} {bytes : Bytes} {direct other : World}

theorem directory (h : sink.Apart origin live bytes direct other) :
    direct.directory = other.directory := by
  show direct.surroundings.directory = other.surroundings.directory
  rw [h.surroundings]

theorem tokens (h : sink.Apart origin live bytes direct other) :
    direct.tokens = other.tokens := by
  show direct.surroundings.tokens = other.surroundings.tokens
  rw [h.surroundings]

theorem alarm (h : sink.Apart origin live bytes direct other) : direct.alarm = other.alarm := by
  show direct.surroundings.alarm = other.surroundings.alarm
  rw [h.surroundings]

theorem environment (h : sink.Apart origin live bytes direct other) :
    direct.environment = other.environment := by
  show direct.surroundings.environment = other.surroundings.environment
  rw [h.surroundings]

theorem nextChannel (h : sink.Apart origin live bytes direct other) :
    direct.nextChannel = other.nextChannel := by
  show direct.surroundings.nextChannel = other.surroundings.nextChannel
  rw [h.surroundings]

theorem home (h : sink.Apart origin live bytes direct other) : direct.home = other.home := by
  show direct.surroundings.home = other.surroundings.home
  rw [h.surroundings]

theorem terminal (h : sink.Apart origin live bytes direct other) :
    direct.terminal = other.terminal := by
  show direct.surroundings.terminal = other.surroundings.terminal
  rw [h.surroundings]

/-- What a sink without a file holds does not matter. -/
theorem of_no_path (h : sink.Apart origin live bytes direct other) (hpath : sink.path? = none)
    (more : Bytes) : sink.Apart origin live more direct other :=
  { h with
    holds := fun path hsome => absurd (hpath.symm.trans hsome) (by simp)
    place := fun path hsome => absurd (hpath.symm.trans hsome) (by simp) }

theorem setDirectory (h : sink.Apart origin live bytes direct other) (directory : Path) :
    sink.Apart origin live bytes { direct with directory := directory }
      { other with directory := directory } :=
  { h with
    surroundings :=
      congrArg (fun w : World => { w with directory := directory }) h.surroundings }

theorem setTerminal (h : sink.Apart origin live bytes direct other) (terminal : Terminal) :
    sink.Apart origin live bytes { direct with terminal := terminal }
      { other with terminal := terminal } :=
  { h with
    surroundings := congrArg (fun w : World => { w with terminal := terminal }) h.surroundings }

theorem setVolume (h : sink.Apart origin live bytes direct other) {volume otherVolume : Volume}
    (hvolume : Volume.StillApart sink.path? direct.volume other.volume volume otherVolume) :
    sink.Apart origin live bytes { direct with volume := volume }
      { other with volume := otherVolume } :=
  { h with
    surroundings := h.surroundings
    volume := hvolume.agree
    holds := fun path hpath => (hvolume.kept path hpath).trans (h.holds path hpath)
    kept := fun path hpath => (hvolume.otherKept path hpath).trans (h.kept path hpath) }

/-- Another channel at a number that is in use in both. -/
theorem setChannel (h : sink.Apart origin live bytes direct other) {number : Nat}
    (hnumber : number ≠ 1 ∨ live = true) {channel : Channel} (hchannel : channel.IsOff sink.path?) :
    sink.Apart origin live bytes (direct.setChannel number channel)
      (other.setChannel number channel) where
  surroundings := h.surroundings
  volume := h.volume
  channels := by
    intro n hn
    simp only [World.setChannel]
    split_ifs
    · rfl
    · exact h.channels n hn
  off := by
    intro n hn
    simp only [World.setChannel]
    split_ifs
    · exact hchannel
    · exact h.off n hn
  upcoming := h.upcoming
  holds := h.holds
  place := by
    intro path hpath hlive
    have hne : number ≠ 1 := by simpa [hlive] using hnumber
    simp only [World.setChannel, if_neg (Ne.symm hne)]
    exact h.place path hpath hlive
  kept := h.kept
  keptPlace := by
    intro hlive
    have hne : number ≠ 1 := by simpa [hlive] using hnumber
    simp only [World.setChannel, if_neg (Ne.symm hne)]
    exact h.keptPlace hlive

/-- Channel 1 comes into use in both. -/
theorem openChannel (h : sink.Apart origin live bytes direct other) {channel : Channel}
    (hchannel : channel.IsOff sink.path?) :
    sink.Apart origin true bytes (direct.setChannel 1 channel) (other.setChannel 1 channel) where
  surroundings := h.surroundings
  volume := h.volume
  channels := by
    intro n _
    simp only [World.setChannel]
    split_ifs with hn
    · rfl
    · exact h.channels n (Or.inl hn)
  off := by
    intro n _
    simp only [World.setChannel]
    split_ifs with hn
    · exact hchannel
    · exact h.off n (Or.inl hn)
  upcoming := h.upcoming
  holds := h.holds
  place := fun path hpath hlive => absurd hlive (by decide)
  kept := h.kept
  keptPlace := fun hlive => absurd hlive (by decide)

/-- Channel 1 comes back as it was before it came into use in both. -/
theorem closeChannel (h : sink.Apart origin live bytes direct other) {after otherAfter : World}
    (hafter : sink.Apart origin true bytes after otherAfter) :
    sink.Apart origin live bytes (after.setChannel 1 (direct.channels 1))
      (otherAfter.setChannel 1 (other.channels 1)) where
  surroundings := hafter.surroundings
  volume := hafter.volume
  channels := by
    intro n hn
    simp only [World.setChannel]
    split_ifs with hone
    · exact h.channels 1 (hone ▸ hn)
    · exact hafter.channels n (Or.inl hone)
  off := by
    intro n hn
    simp only [World.setChannel]
    split_ifs with hone
    · exact h.off 1 (hone ▸ hn)
    · exact hafter.off n (Or.inl hone)
  upcoming := hafter.upcoming
  holds := hafter.holds
  place := h.place
  kept := hafter.kept
  keptPlace := h.keptPlace

/-- Writing through a channel that is in use in both does the same in both. -/
theorem write (h : sink.Apart origin live bytes direct other) {number : Nat}
    (hnumber : number ≠ 1 ∨ live = true) (more : Bytes) :
    (∃ error, direct.volume.write (direct.channels number) more = .error error ∧
      other.volume.write (other.channels number) more = .error error) ∨
    ∃ volume otherVolume channel,
      direct.volume.write (direct.channels number) more = .ok (volume, channel) ∧
      other.volume.write (other.channels number) more = .ok (otherVolume, channel) ∧
      sink.Apart origin live bytes ({ direct with volume := volume }.setChannel number channel)
        ({ other with volume := otherVolume }.setChannel number channel) := by
  rw [h.channels number hnumber]
  obtain herror | ⟨volume, otherVolume, channel, hoff, hdirect, hother, hstill⟩ :=
    Volume.write_congr h.volume (h.off number hnumber) more
  · exact Or.inl herror
  · exact Or.inr ⟨volume, otherVolume, channel, hdirect, hother,
      (h.setVolume hstill).setChannel hnumber hoff⟩

/-- Writing to the file of the sink adds to what it holds. -/
theorem writeSink {path : Path} (h : (Sink.file path).Apart origin false bytes direct other)
    (more : Bytes) :
    ∃ volume channel, direct.volume.write (direct.channels 1) more = .ok (volume, channel) ∧
      (Sink.file path).Apart origin false (bytes ++ more)
        ({ direct with volume := volume }.setChannel 1 channel) other := by
  rw [h.place path rfl rfl]
  obtain ⟨volume, hwrite, hget, hleft⟩ := Volume.write_at_end (h.holds path rfl) more
  refine ⟨volume, _, hwrite, ?_⟩
  exact
    { surroundings := h.surroundings
      volume := hleft.trans h.volume
      channels := by
        intro n hn
        have hne : n ≠ 1 := by simpa using hn
        simp only [World.setChannel, if_neg hne]
        exact h.channels n hn
      off := h.off
      upcoming := h.upcoming
      holds := by
        rintro _ ⟨⟩
        exact hget
      place := by
        rintro _ ⟨⟩ _
        rfl
      kept := h.kept
      keptPlace := h.keptPlace }

/-! ### Written paths past the sink -/

theorem changeDirectory (h : sink.Apart origin live bytes direct other) {written : Text}
    (hway : ∀ path ∈ Volume.wayOf other.directory written, some path ≠ sink.path?) :
    (∃ error, direct.changeDirectory written = .error error ∧
      other.changeDirectory written = .error error) ∨
    ∃ path, direct.changeDirectory written = .ok { direct with directory := path } ∧
      other.changeDirectory written = .ok { other with directory := path } := by
  simp only [World.changeDirectory, World.askAbout, h.directory,
    Volume.locate_congr h.volume hway]
  by_cases hnul : written.contains (Char.ofNat 0)
  · exact Or.inl ⟨_, if_pos hnul, if_pos hnul⟩
  · simp only [if_neg hnul]
    cases other.volume.locate other.directory written with
    | error error => exact Or.inl ⟨_, rfl, rfl⟩
    | ok place =>
        cases place with
        | free path => exact Or.inl ⟨_, rfl, rfl⟩
        | existing path entry =>
            cases entry with
            | directory => exact Or.inr ⟨path, rfl, rfl⟩
            | _ => exact Or.inl ⟨_, rfl, rfl⟩

theorem openRead (h : sink.Apart origin live bytes direct other) {written : Text}
    (hway : ∀ path ∈ Volume.wayOf other.directory written, some path ≠ sink.path?) :
    direct.openRead written = other.openRead written := by
  rw [World.openRead, World.openRead, h.directory, Volume.openRead_congr h.volume hway]

theorem openRead_isOff {skip : Option Path} {written : Text} {channel : Channel}
    (hway : ∀ path ∈ Volume.wayOf other.directory written, some path ≠ skip)
    (hopen : other.openRead written = .ok channel) : channel.IsOff skip := by
  rw [World.openRead, World.askAbout] at hopen
  split_ifs at hopen
  cases hvolume : other.volume.openRead other.directory written with
  | error error =>
      rw [hvolume] at hopen
      cases hopen
  | ok opened =>
      rw [hvolume] at hopen
      cases hopen
      exact Volume.openRead_isOff hway hvolume

theorem openWrite (h : sink.Apart origin live bytes direct other) {written : Text}
    (access : Access)
    (hway : ∀ path ∈ Volume.wayOf other.directory written, some path ≠ sink.path?) :
    (∃ error, direct.openWrite written access = .error error ∧
      other.openWrite written access = .error error) ∨
    ∃ path after otherAfter, some path ≠ sink.path? ∧
      direct.openWrite written access = .ok (after, .file path 0 access) ∧
      other.openWrite written access = .ok (otherAfter, .file path 0 access) ∧
      sink.Apart origin live bytes after otherAfter := by
  simp only [World.openWrite, World.askAbout]
  by_cases hnul : written.contains (Char.ofNat 0)
  · exact Or.inl ⟨_, if_pos hnul, if_pos hnul⟩
  · simp only [if_neg hnul]
    obtain ⟨error, hdirect, hother⟩ | ⟨path, volume, otherVolume, hpath, hdirect, hother, hstill⟩ :=
      Volume.openWrite_congr h.volume access hway
    · rw [h.directory, hdirect, hother]
      exact Or.inl ⟨_, rfl, rfl⟩
    · rw [← h.directory] at hdirect
      rw [hdirect, hother]
      exact Or.inr ⟨path, _, _, hpath, rfl, rfl, h.setVolume hstill⟩

end Apart

end Sink

end Conch
