import Mathlib.Data.List.DropRight
import NexusComms.Concurrency.Runs

/-! The hook `useMediaDevices`. `startMedia` stops the tracks of the stream in `streamRef`, waits
for `getUserMedia` and writes `streamRef` when it has the new stream, whatever has been called
in between. A stream that is not in `streamRef` is never stopped.
-/

namespace NexusComms.Frontend

open Concurrency

inductive TrackKind where
  | audio
  | video
deriving DecidableEq, Repr

structure MediaStreamTrack where
  kind : TrackKind
  enabled : Bool := true
  live : Bool := true
deriving DecidableEq, Repr

def MediaStreamTrack.stop (track : MediaStreamTrack) : MediaStreamTrack :=
  { track with live := false }

/-- The constraints of a call of `getUserMedia` whose promise is pending. -/
structure MediaRequest where
  video : Bool
  audio : Bool
deriving DecidableEq, Repr

/-- The tracks of the stream that the request is given: one for each kind that it asks for. -/
def MediaRequest.tracks (request : MediaRequest) : List MediaStreamTrack :=
  (if request.audio then [{ kind := .audio }] else [])
    ++ (if request.video then [{ kind := .video }] else [])

/-- The states and refs of the hook, with all streams that it has acquired: a stream is named by
its place there. -/
structure UseMediaDevices where
  streams : List (List MediaStreamTrack)
  streamRef : Option Nat
  pending : List MediaRequest
  stream : Option Nat
  micEnabled : Bool
  cameraEnabled : Bool
  error : Option String
deriving DecidableEq, Repr

/-- The calls of the hook's functions, and what becomes of the pending promises. -/
inductive MediaAction where
  | startMedia (video audio : Bool)
  | stopMedia
  | toggleMic
  | toggleCamera
  | resolve (index : Nat)
  | reject (index : Nat) (message : String)
deriving DecidableEq, Repr

namespace UseMediaDevices

/-- The hook at its first render. -/
def mount : UseMediaDevices :=
  {
    streams := []
    streamRef := none
    pending := []
    stream := none
    micEnabled := true
    cameraEnabled := true
    error := none
  }

/-- `streamRef.current.getTracks().forEach((track) => track.stop())`. -/
def stopTracks (hook : UseMediaDevices) : UseMediaDevices :=
  match hook.streamRef with
  | none => hook
  | some id => { hook with streams := hook.streams.modify id (List.map MediaStreamTrack.stop) }

/-- `startMedia` up to its `await`. -/
def startMedia (video audio : Bool) (hook : UseMediaDevices) : UseMediaDevices :=
  { hook.stopTracks with pending := hook.pending ++ [⟨video, audio⟩] }

/-- `startMedia` from its `await` on. A request for nothing is rejected. -/
def acquire (index : Nat) (hook : UseMediaDevices) : Option UseMediaDevices :=
  match hook.pending[index]? with
  | none => none
  | some request =>
      if request.video || request.audio then
        some
          {
            streams := hook.streams ++ [request.tracks]
            streamRef := some hook.streams.length
            pending := hook.pending.eraseIdx index
            stream := some hook.streams.length
            cameraEnabled := request.video
            micEnabled := request.audio
            error := none
          }
      else
        none

/-- The `catch` of `startMedia`. -/
def fail (index : Nat) (message : String) (hook : UseMediaDevices) : Option UseMediaDevices :=
  if index < hook.pending.length then
    some
      {
        hook with
        pending := hook.pending.eraseIdx index
        error := some (if message = "" then "Failed to access media devices" else message)
      }
  else
    none

def stopMedia (hook : UseMediaDevices) : UseMediaDevices :=
  match hook.streamRef with
  | none => hook
  | some _ =>
      {
        hook.stopTracks with
        streamRef := none
        stream := none
        cameraEnabled := false
        micEnabled := false
      }

/-- The first track of a kind is switched on or off. -/
def toggleFirst (kind : TrackKind) : List MediaStreamTrack → List MediaStreamTrack
  | [] => []
  | track :: rest =>
      if track.kind = kind then
        { track with enabled := !track.enabled } :: rest
      else
        track :: toggleFirst kind rest

/-- Whether the first track of a kind is on; it is not where there is none. -/
def firstEnabled (kind : TrackKind) (tracks : List MediaStreamTrack) : Bool :=
  ((tracks.find? (fun track => track.kind = kind)).map MediaStreamTrack.enabled).getD false

def toggleMic (hook : UseMediaDevices) : UseMediaDevices :=
  match hook.streamRef with
  | none => hook
  | some id =>
      let streams := hook.streams.modify id (toggleFirst .audio)
      { hook with
        streams := streams
        micEnabled := firstEnabled .audio (streams[id]?.getD []) }

def toggleCamera (hook : UseMediaDevices) : UseMediaDevices :=
  match hook.streamRef with
  | none => hook
  | some id =>
      let streams := hook.streams.modify id (toggleFirst .video)
      { hook with
        streams := streams
        cameraEnabled := firstEnabled .video (streams[id]?.getD []) }

/-- What an action makes of the hook. -/
def step (hook : UseMediaDevices) : MediaAction → Option UseMediaDevices
  | .startMedia video audio => some (hook.startMedia video audio)
  | .stopMedia => some hook.stopMedia
  | .toggleMic => some hook.toggleMic
  | .toggleCamera => some hook.toggleCamera
  | .resolve index => hook.acquire index
  | .reject index message => hook.fail index message

/-- A stream with a track that has not been stopped. -/
def LiveIn (streams : List (List MediaStreamTrack)) (id : Nat) : Prop :=
  ∃ tracks ∈ streams[id]?, ∃ track ∈ tracks, track.live = true

def Live (hook : UseMediaDevices) (id : Nat) : Prop := LiveIn hook.streams id

instance (hook : UseMediaDevices) (id : Nat) : Decidable (hook.Live id) :=
  decidable_of_iff (hook.streams[id]?.any (fun tracks => tracks.any MediaStreamTrack.live) = true)
    (by simp [Live, LiveIn, Option.any_eq_true])

end UseMediaDevices

/-- All interleavings of calls and promises of one hook. -/
def mediaMachine : Machine UseMediaDevices MediaAction where
  init := .mount
  step := UseMediaDevices.step

/-- The action is a call of `startMedia` or of `stopMedia`. -/
def MediaAction.isCall : MediaAction → Bool
  | startMedia _ _ => true
  | stopMedia => true
  | _ => false

/-- A stream is acquired. -/
def MediaAction.acquires : MediaAction → Bool
  | resolve _ => true
  | _ => false

/-- The last of these actions that is a call. -/
def lastCall (actions : List MediaAction) : Option MediaAction :=
  (actions.filter MediaAction.isCall).getLast?

/-- The actions after the last call. -/
def sinceLastCall (actions : List MediaAction) : List MediaAction :=
  actions.rtakeWhile (fun action => !action.isCall)

--------------------------------------------------------------------------------
-- Which streams are live
--------------------------------------------------------------------------------

namespace UseMediaDevices

variable {hook hook' : UseMediaDevices} {id : Nat}

theorem live_lt {streams : List (List MediaStreamTrack)} (live : LiveIn streams id)
    : id < streams.length := by
  obtain ⟨tracks, found, _⟩ := live
  exact (List.getElem?_eq_some_iff.mp found).1

/-- What is done to one stream leaves the others as they are. -/
theorem live_modify {streams : List (List MediaStreamTrack)}
    {change : List MediaStreamTrack → List MediaStreamTrack} {place : Nat}
    : LiveIn (streams.modify place change) id
      ↔ ∃ tracks ∈ streams[id]?,
          ∃ track ∈ (if place = id then change tracks else tracks), track.live = true := by
  simp only [LiveIn, List.getElem?_modify, Option.mem_def]
  constructor
  · rintro ⟨tracks, found, live⟩
    obtain ⟨old, known, rfl⟩ := Option.map_eq_some_iff.mp found
    exact ⟨old, known, live⟩
  · rintro ⟨old, known, live⟩
    exact ⟨_, by rw [known]; rfl, live⟩

/-- A stream that is stopped has no live track left. -/
theorem live_stopTracks
    : hook.stopTracks.Live id ↔ hook.Live id ∧ hook.streamRef ≠ some id := by
  cases ref : hook.streamRef with
  | none => simp [stopTracks, ref]
  | some place =>
      have streams : hook.stopTracks.streams
          = hook.streams.modify place (List.map MediaStreamTrack.stop) := by
        rw [stopTracks, ref]
      rw [Live, streams, live_modify]
      by_cases same : place = id
      · subst same
        simp [MediaStreamTrack.stop]
      · simp [same, Live, LiveIn]

/-- Switching a track on or off stops none. -/
theorem live_toggleFirst {kind : TrackKind} {tracks : List MediaStreamTrack}
    : (∃ track ∈ toggleFirst kind tracks, track.live = true)
      ↔ ∃ track ∈ tracks, track.live = true := by
  induction tracks with
  | nil => simp [toggleFirst]
  | cons track rest ih =>
      rw [toggleFirst]
      split
      · simp
      · simp only [List.exists_mem_cons_iff, ih]

theorem live_toggle {streams : List (List MediaStreamTrack)} {kind : TrackKind} {place : Nat}
    : LiveIn (streams.modify place (toggleFirst kind)) id ↔ LiveIn streams id := by
  rw [live_modify]
  refine exists_congr fun tracks => and_congr_right fun _ => ?_
  split
  · exact live_toggleFirst
  · exact Iff.rfl

/-- A request for something is given a track. -/
theorem tracks_live {request : MediaRequest} (asks : (request.video || request.audio) = true)
    : ∃ track ∈ request.tracks, track.live = true := by
  cases audio : request.audio with
  | true => exact ⟨{ kind := .audio }, by simp [MediaRequest.tracks, audio], rfl⟩
  | false =>
      have video : request.video = true := by simpa [audio] using asks
      exact ⟨{ kind := .video }, by simp [MediaRequest.tracks, video], rfl⟩

/-- A stream that has been acquired is live, and it is another one. -/
theorem live_concat {streams : List (List MediaStreamTrack)} {tracks : List MediaStreamTrack}
    (given : ∃ track ∈ tracks, track.live = true)
    : LiveIn (streams ++ [tracks]) id ↔ LiveIn streams id ∨ id = streams.length := by
  rcases Nat.lt_trichotomy id streams.length with earlier | rfl | later
  · simp [LiveIn, List.getElem?_append_left earlier, Nat.ne_of_lt earlier]
  · simpa [LiveIn] using given
  · have outside : ¬ LiveIn (streams ++ [tracks]) id := fun live => by
      have := live_lt live
      rw [List.length_append, List.length_singleton] at this
      omega
    have before : ¬ LiveIn streams id := fun live => by
      have := live_lt live
      omega
    simp [outside, before, Nat.ne_of_gt later]

/-- What an action does to the live streams and to `streamRef`. -/
inductive Affects (before after : UseMediaDevices) : MediaAction → Prop
  | starts {video audio : Bool}
    (live : ∀ id, after.Live id ↔ before.Live id ∧ before.streamRef ≠ some id)
    (ref : after.streamRef = before.streamRef)
    : Affects before after (.startMedia video audio)
  | stops (live : ∀ id, after.Live id ↔ before.Live id ∧ before.streamRef ≠ some id)
    (ref : after.streamRef = none)
    : Affects before after .stopMedia
  | acquires {index : Nat}
    (live : ∀ id, after.Live id ↔ before.Live id ∨ id = before.streams.length)
    (ref : after.streamRef = some before.streams.length)
    : Affects before after (.resolve index)
  | leaves {action : MediaAction} (noCall : action.isCall = false)
    (acquiresNone : action.acquires = false) (live : ∀ id, after.Live id ↔ before.Live id)
    (ref : after.streamRef = before.streamRef)
    : Affects before after action

theorem step_affects {action : MediaAction} (stepped : hook.step action = some hook')
    : Affects hook hook' action := by
  cases action with
  | startMedia video audio =>
      cases stepped
      refine .starts (fun id => live_stopTracks) ?_
      cases ref : hook.streamRef with
      | none => simp [startMedia, stopTracks, ref]
      | some place => simp [startMedia, stopTracks, ref]
  | stopMedia =>
      cases stepped
      cases ref : hook.streamRef with
      | none => exact .stops (by simp [stopMedia, ref]) (by simp [stopMedia, ref])
      | some place =>
          refine .stops (fun id => ?_) (by simp [stopMedia, ref])
          have streams : hook.stopMedia.streams = hook.stopTracks.streams := by
            rw [stopMedia, ref]
          rw [Live, streams]
          exact live_stopTracks
  | toggleMic =>
      cases stepped
      cases ref : hook.streamRef with
      | none => exact .leaves rfl rfl (by simp [toggleMic, ref]) (by simp [toggleMic, ref])
      | some place =>
          refine .leaves rfl rfl (fun id => ?_) (by simp [toggleMic, ref])
          rw [toggleMic, ref]
          exact live_toggle
  | toggleCamera =>
      cases stepped
      cases ref : hook.streamRef with
      | none => exact .leaves rfl rfl (by simp [toggleCamera, ref]) (by simp [toggleCamera, ref])
      | some place =>
          refine .leaves rfl rfl (fun id => ?_) (by simp [toggleCamera, ref])
          rw [toggleCamera, ref]
          exact live_toggle
  | resolve index =>
      simp only [step, acquire] at stepped
      split at stepped
      · cases stepped
      · split at stepped
        · next asks =>
            cases stepped
            exact .acquires (fun id => live_concat (tracks_live asks)) rfl
        · cases stepped
  | reject index message =>
      simp only [step, fail] at stepped
      split at stepped
      · cases stepped
        exact .leaves rfl rfl (fun id => Iff.rfl) rfl
      · cases stepped

/-- Every live stream is the one in `streamRef`. -/
def Held (hook : UseMediaDevices) : Prop := ∀ id, hook.Live id → hook.streamRef = some id

/-- A stream that is acquired does not take the place of a live one. -/
def Harmless (hook : UseMediaDevices) (action : MediaAction) : Prop :=
  action.acquires = true → ∀ id ∈ hook.streamRef, ¬ hook.Live id

instance (hook : UseMediaDevices) (action : MediaAction) : Decidable (hook.Harmless action) :=
  inferInstanceAs (Decidable (_ → ∀ id ∈ hook.streamRef, ¬ hook.Live id))

/-- Where every live stream is held, only an acquisition over a live stream changes that. -/
theorem held_step {action : MediaAction} (affects : Affects hook hook' action) (held : hook.Held)
    : hook'.Held ↔ hook.Harmless action := by
  cases affects with
  | starts live ref =>
      refine ⟨fun _ acquires => Bool.noConfusion acquires, fun _ id alive => ?_⟩
      exact absurd (held id ((live id).mp alive).1) ((live id).mp alive).2
  | stops live ref =>
      refine ⟨fun _ acquires => Bool.noConfusion acquires, fun _ id alive => ?_⟩
      exact absurd (held id ((live id).mp alive).1) ((live id).mp alive).2
  | acquires live ref =>
      constructor
      · intro held' _ id previous alive
        have taken := held' id ((live id).mpr (Or.inl alive))
        have := Option.some.inj (ref.symm.trans taken)
        have := live_lt alive
        omega
      · intro harmless id alive
        rcases (live id).mp alive with before | rfl
        · exact absurd before (harmless rfl id (held id before))
        · exact ref
  | leaves noCall acquiresNone live ref =>
      refine ⟨fun _ acquires => ?_, fun _ id alive => ?_⟩
      · rw [acquiresNone] at acquires
        exact Bool.noConfusion acquires
      · rw [ref]
        exact held id ((live id).mp alive)

/-- A live stream that is not held will never be stopped. -/
theorem leaked_step {action : MediaAction} (affects : Affects hook hook' action)
    (leaked : ¬ hook.Held)
    : ¬ hook'.Held := by
  unfold Held at leaked
  push Not at leaked
  obtain ⟨id, alive, elsewhere⟩ := leaked
  intro held'
  cases affects with
  | starts live ref => exact elsewhere (ref ▸ held' id ((live id).mpr ⟨alive, elsewhere⟩))
  | stops live ref =>
      have := held' id ((live id).mpr ⟨alive, elsewhere⟩)
      rw [ref] at this
      cases this
  | acquires live ref =>
      have taken := held' id ((live id).mpr (Or.inl alive))
      have := Option.some.inj (ref.symm.trans taken)
      have := live_lt alive
      omega
  | leaves noCall acquiresNone live ref => exact elsewhere (ref ▸ held' id ((live id).mpr alive))

/-- At the end of a run every live stream is held exactly when all acquisitions were harmless. -/
theorem held_iff {final : UseMediaDevices} {actions : List MediaAction}
    (run : mediaMachine.Reaches actions final)
    : final.Held ↔ mediaMachine.Along Harmless .mount actions := by
  have mounted : mount.Held := by
    rintro id ⟨tracks, found, _⟩
    cases found
  have steps {hook next : UseMediaDevices} {action : MediaAction}
      (stepped : hook.step action = some next)
      : next.Held ↔ hook.Held ∧ hook.Harmless action := by
    have affects := step_affects stepped
    refine ⟨fun held' => ?_, fun held => (held_step affects held.1).mpr held.2⟩
    have held : hook.Held := by
      by_contra leaked
      exact leaked_step affects leaked held'
    exact ⟨held, (held_step affects held).mp held'⟩
  obtain ⟨_, _, same⟩ := mediaMachine.good_iff_along (fun _ (_ : Unit) => True)
    (fun hook _ => hook.Held) (fun _ stepped => ⟨(), trivial, steps stepped⟩) () trivial run
  exact same.trans (and_iff_right mounted)

end UseMediaDevices

--------------------------------------------------------------------------------
-- After the last call
--------------------------------------------------------------------------------

section

variable {actions : List MediaAction} {action : MediaAction} {hook : UseMediaDevices}

theorem lastCall_call (call : action.isCall = true)
    : lastCall (actions ++ [action]) = some action := by
  simp [lastCall, List.filter_append, call]

theorem lastCall_other (other : action.isCall = false)
    : lastCall (actions ++ [action]) = lastCall actions := by
  simp [lastCall, List.filter_append, other]

theorem sinceLastCall_call (call : action.isCall = true)
    : sinceLastCall (actions ++ [action]) = [] :=
  List.rtakeWhile_concat_neg _ _ _ (by simp [call])

theorem sinceLastCall_other (other : action.isCall = false)
    : sinceLastCall (actions ++ [action]) = sinceLastCall actions ++ [action] :=
  List.rtakeWhile_concat_pos _ _ _ (by simp [other])

/-- After `stopMedia` a stream is live exactly when one has been acquired since, by induction on
the run from its end. -/
theorem live_since_stop (run : mediaMachine.Reaches actions hook) (held : hook.Held)
    (stopped : lastCall actions = some .stopMedia)
    : (∃ id, hook.Live id) ↔ ∃ action ∈ sinceLastCall actions, action.acquires = true := by
  induction actions using List.reverseRecOn generalizing hook with
  | nil => cases stopped
  | append_singleton actions action ih =>
      obtain ⟨before, earlier, last⟩ := mediaMachine.exec_append_some run
      obtain ⟨after, stepped, same⟩ := Option.bind_eq_some_iff.mp last
      cases same
      have affects := UseMediaDevices.step_affects stepped
      have heldBefore : before.Held := by
        by_contra leaked
        exact UseMediaDevices.leaked_step affects leaked held
      cases affects with
      | starts live ref => cases (lastCall_call rfl).symm.trans stopped
      | stops live ref =>
          rw [sinceLastCall_call rfl]
          constructor
          · rintro ⟨id, alive⟩
            obtain ⟨was, apart⟩ := (live id).mp alive
            exact absurd (heldBefore id was) apart
          · rintro ⟨_, hmem, _⟩
            exact absurd hmem List.not_mem_nil
      | acquires live ref =>
          rw [sinceLastCall_other rfl]
          exact iff_of_true ⟨_, (live _).mpr (Or.inr rfl)⟩
            ⟨_, List.mem_append_right _ (List.mem_singleton.mpr rfl), rfl⟩
      | leaves noCall acquiresNone live ref =>
          rw [lastCall_other noCall] at stopped
          rw [sinceLastCall_other noCall]
          simp only [live, ih earlier heldBefore stopped, List.mem_append, List.mem_singleton,
            or_and_right, exists_or, exists_eq_left, acquiresNone, Bool.false_eq_true, or_false]

/-- What a user expects of the camera at a moment of a run: one live stream at most, the one in
`streamRef`, and none once `stopMedia` has been called last. -/
structure Released (actions : List MediaAction) (hook : UseMediaDevices) : Prop where
  single : ∀ id other, hook.Live id → hook.Live other → id = other
  held : ∀ id, hook.Live id → hook.streamRef = some id
  stopped : lastCall actions = some .stopMedia → ∀ id, ¬ hook.Live id

/-- The camera is released exactly when no acquisition of the run took the place of a live
stream, and, where `stopMedia` was called last, nothing has been acquired since. -/
theorem released_iff (run : mediaMachine.Reaches actions hook)
    : Released actions hook
      ↔ mediaMachine.Along UseMediaDevices.Harmless .mount actions
        ∧ (lastCall actions = some .stopMedia
          → ∀ action ∈ sinceLastCall actions, action.acquires = false) := by
  have held_iff := UseMediaDevices.held_iff run
  constructor
  · rintro ⟨_, held, stopped⟩
    refine ⟨held_iff.mp held, fun last action hmem => ?_⟩
    by_contra acquires
    obtain ⟨id, alive⟩ := (live_since_stop run held last).mpr
      ⟨action, hmem, (Bool.not_eq_false _).mp acquires⟩
    exact stopped last id alive
  · rintro ⟨along, quiet⟩
    have held := held_iff.mpr along
    refine ⟨fun id other alive also => ?_, held, fun last id alive => ?_⟩
    · exact Option.some.inj ((held id alive).symm.trans (held other also))
    · obtain ⟨action, hmem, acquires⟩ := (live_since_stop run held last).mp ⟨id, alive⟩
      rw [quiet last action hmem] at acquires
      exact Bool.noConfusion acquires

theorem released_after_stop
    : ∃ hook, mediaMachine.Reaches [.startMedia true true, .resolve 0, .stopMedia] hook
        ∧ Released [.startMedia true true, .resolve 0, .stopMedia] hook := by
  have run : mediaMachine.Reaches [.startMedia true true, .resolve 0, .stopMedia] _ := rfl
  exact ⟨_, run, (released_iff run).mpr ⟨by decide, by decide⟩⟩

/-- Two calls of `startMedia` before the first promise resolves leave a stream behind, and so
does `stopMedia` while a promise is pending. -/
theorem camera_left_on
    : (∃ hook, mediaMachine.Reaches
            [.startMedia true true, .startMedia false true, .resolve 0, .resolve 0] hook
          ∧ hook.pending = [] ∧ hook.Live 0 ∧ hook.Live 1 ∧ hook.streamRef = some 1
          ∧ ¬ Released [.startMedia true true, .startMedia false true, .resolve 0, .resolve 0] hook)
      ∧ ∃ hook, mediaMachine.Reaches [.startMedia true true, .stopMedia, .resolve 0] hook
          ∧ hook.pending = [] ∧ hook.Live 0
          ∧ ¬ Released [.startMedia true true, .stopMedia, .resolve 0] hook := by
  constructor
  · refine ⟨_, rfl, rfl, by decide, by decide, rfl, fun released => ?_⟩
    exact absurd (released.held 0 (by decide)) (by decide)
  · refine ⟨_, rfl, rfl, by decide, fun released => ?_⟩
    exact released.stopped (by decide) 0 (by decide)

end

end NexusComms.Frontend
