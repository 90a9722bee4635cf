import Conch.Proofs.Piping

/-!
Actions that a channel is nothing to. They do the same whatever the channel holds, and leave it as
it is (`Action.Spares`). Writing elsewhere spares a channel, so that a channel which is replaced for
a copy need only be replaced while the copy reads it.

* `Action.Spares.withChannel_eq_self`: around such an action a channel need not be replaced.
* `Action.Spares.withChannel_bind`: a channel can be replaced behind such an action.
* `Action.spares_write`: writing to another endpoint spares the channel.
-/

namespace Conch

theorem World.setChannel_comm (w : World) {number other : Nat} (h : number ≠ other)
    (first second : Channel) :
    (w.setChannel number first).setChannel other second =
      (w.setChannel other second).setChannel number first := by
  simp only [setChannel]
  congr
  funext n
  split_ifs with hn hn' <;> first | rfl | exact absurd (hn'.symm.trans hn) h

namespace Action

variable {α β : Type} {number : Nat}

/-- The action neither looks at the channel of a number nor changes it. -/
def Spares (number : Nat) (a : Action α) : Prop :=
  ∀ s channel, a (s.setChannel number channel) =
    { a s with session := (a s).session.setChannel number channel }

/-- What spares a channel leaves it as it is. -/
theorem Spares.channels_eq {a : Action α} (h : Spares number a) (s : Session) :
    (a s).session.world.channels number = s.world.channels number := by
  have hself := h s (s.world.channels number)
  rw [Session.setChannel_self] at hself
  have hchannels := congrArg (fun run => run.session.world.channels number) hself
  exact hchannels.trans (Session.channels_setChannel ..)

/-- The session in which a channel comes back that was replaced. -/
theorem Spares.setChannel_back {a : Action α} (h : Spares number a) (s : Session)
    (channel : Channel) :
    ((a s).session.setChannel number channel).setChannel number (s.world.channels number) =
      (a s).session := by
  rw [Session.setChannel_setChannel, ← h.channels_eq s, Session.setChannel_self]

theorem withChannel_eq (channel : Channel) (a : Action α) (s : Session) :
    withChannel number channel a s =
      { a (s.setChannel number channel) with
        session := (a (s.setChannel number channel)).session.setChannel number
          (s.world.channels number) } := rfl

theorem withChannel_congr {channel : Channel} {a b : Action α} {s : Session}
    (h : a (s.setChannel number channel) = b (s.setChannel number channel)) :
    withChannel number channel a s = withChannel number channel b s := by
  rw [withChannel_eq, withChannel_eq, h]

/-- Where a channel is nothing to an action, it need not be replaced. -/
theorem Spares.withChannel_eq_self {a : Action α} (h : Spares number a) (channel : Channel) :
    withChannel number channel a = a := by
  funext s
  rw [withChannel_eq, h s channel, h.setChannel_back]

/-- A channel can be replaced behind what spares it. -/
theorem Spares.withChannel_bind {a : Action α} (h : Spares number a) (channel : Channel)
    (next : α → Action β) :
    withChannel number channel (a >>= next) =
      a >>= fun value => withChannel number channel (next value) := by
  funext s
  have hback := h.setChannel_back s channel
  have hrun := h s channel
  rw [withChannel_eq]
  cases houtcome : (a s).outcome with
  | done value =>
      have hdone : (a (s.setChannel number channel)).outcome = .done value := by rw [hrun, houtcome]
      rw [bind_of_done houtcome, bind_of_done hdone, hrun, withChannel_eq, h.channels_eq s]
  | failed error =>
      have hfailed : (a (s.setChannel number channel)).outcome = .failed error := by
        rw [hrun, houtcome]
      rw [bind_of_failed houtcome, bind_of_failed hfailed, hrun, hback]
  | unfinished =>
      have hunfinished : (a (s.setChannel number channel)).outcome = .unfinished := by
        rw [hrun, houtcome]
      rw [bind_of_unfinished houtcome, bind_of_unfinished hunfinished, hrun, hback]

theorem withChannel_mapError (channel : Channel) (f : ShellError → ShellError) (a : Action α) :
    withChannel number channel (mapError f a) = mapError f (withChannel number channel a) := by
  funext s
  rw [withChannel_eq]
  unfold mapError
  rw [withChannel_eq]
  obtain ⟨outcome, session, trace⟩ := a (s.setChannel number channel)
  cases outcome <;> rfl

/-- The channel that is read may be empty from then on. -/
theorem withChannel_read (bytes : Bytes) (next : Bytes → Action α) :
    withChannel number (.pipe bytes) (read (.channel number) >>= next) =
      withChannel number (.pipe []) (next bytes) := by
  funext s
  have hread := Eval.read_pipe (s.channels_setChannel number (.pipe bytes))
  have hdone : (read (.channel number) (s.setChannel number (.pipe bytes))).outcome =
      .done bytes := by rw [hread]
  rw [withChannel_eq, withChannel_eq, bind_of_done hdone, hread, Session.setChannel_setChannel]
  rfl

theorem spares_checkCancelled (ctx : Context) : Spares number (checkCancelled ctx) := by
  intro s channel
  have hsame : (s.setChannel number channel).world.tokens = s.world.tokens := rfl
  rw [checkCancelled_eq, checkCancelled_eq, hsame]
  split_ifs <;> rfl

theorem spares_emit (event : Event) : Spares number (emit event) := fun _ _ => rfl

theorem Spares.bind {a : Action α} (h : Spares number a) {next : α → Action β}
    (hnext : ∀ value, Spares number (next value)) : Spares number (a >>= next) := by
  intro s channel
  have hrun := h s channel
  cases houtcome : (a s).outcome with
  | done value =>
      have hdone : (a (s.setChannel number channel)).outcome = .done value := by rw [hrun, houtcome]
      rw [bind_of_done houtcome, bind_of_done hdone, hrun, hnext value]
  | failed error =>
      have hfailed : (a (s.setChannel number channel)).outcome = .failed error := by
        rw [hrun, houtcome]
      rw [bind_of_failed houtcome, bind_of_failed hfailed, hrun]
  | unfinished =>
      have hunfinished : (a (s.setChannel number channel)).outcome = .unfinished := by
        rw [hrun, houtcome]
      rw [bind_of_unfinished houtcome, bind_of_unfinished hunfinished, hrun]

theorem Spares.mapError {a : Action α} (h : Spares number a) (f : ShellError → ShellError) :
    Spares number (mapError f a) := by
  intro s channel
  unfold Action.mapError
  rw [h s channel]
  obtain ⟨outcome, session, trace⟩ := a s
  cases outcome <;> rfl

theorem tryWrite_ok {bytes : Bytes} {s : Session} {volume : Volume} {channel : Channel}
    (h : s.world.volume.write (s.world.channels number) bytes = .ok (volume, channel)) :
    tryWrite (.channel number) bytes s =
      ⟨.done (.ok ()), ⟨s.scope, { s.world with volume := volume }.setChannel number channel⟩,
        []⟩ := by
  rw [tryWrite, bind_of_done rfl]
  simp only [h]
  rfl

theorem tryWrite_error {bytes : Bytes} {s : Session} {error : OsError}
    (h : s.world.volume.write (s.world.channels number) bytes = .error error) :
    tryWrite (.channel number) bytes s = ⟨.done (.error error), s, []⟩ := by
  rw [tryWrite, bind_of_done rfl]
  simp only [h]
  rfl

/-- Writing elsewhere spares a channel. -/
theorem spares_tryWrite {endpoint : Endpoint} (h : endpoint ≠ .channel number) (bytes : Bytes) :
    Spares number (tryWrite endpoint bytes) := by
  intro s channel
  cases endpoint with
  | terminal => rfl
  | outlet fd => rfl
  | standard fd => rfl
  | channel other =>
      have hother : other ≠ number := fun heq => h (by rw [heq])
      have hchannel : (s.setChannel number channel).world.channels other =
          s.world.channels other := if_neg hother
      have hsame : (s.setChannel number channel).world.volume.write
          ((s.setChannel number channel).world.channels other) bytes =
            s.world.volume.write (s.world.channels other) bytes := by
        rw [hchannel]
        rfl
      cases hwrite : s.world.volume.write (s.world.channels other) bytes with
      | error error => rw [tryWrite_error hwrite, tryWrite_error (hsame.trans hwrite)]
      | ok result =>
          rw [tryWrite_ok hwrite, tryWrite_ok (hsame.trans hwrite)]
          exact congrArg (fun w => Finished.mk _ (Session.mk s.scope w) [])
            (World.setChannel_comm { s.world with volume := result.1 } hother.symm channel result.2)

theorem spares_write {endpoint : Endpoint} (h : endpoint ≠ .channel number) (bytes : Bytes) :
    Spares number (write endpoint bytes) := by
  refine (spares_tryWrite h bytes).bind fun result => ?_
  cases result with
  | ok value => exact fun _ _ => rfl
  | error error => exact fun _ _ => rfl

end Action

end Conch
