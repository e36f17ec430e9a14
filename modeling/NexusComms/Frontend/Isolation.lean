import NexusComms.Frontend.System

/-! What an event of another call does to a client. None of the handlers of `useWebRTC` looks
at the call id that an event carries, so each handles the events of other calls as those of
its own.
-/

namespace NexusComms.Frontend

open Concurrency Matchmaking Signaling

/-- The call id that an event of a call carries. -/
def carried : Message → Option Text
  | .callAccepted callId _ _ | .signalOffer callId _ | .signalAnswer callId _
  | .signalIce callId _ | .callEnded callId _ => some callId
  | _ => none

namespace Tab

/-- An event of another call than the one that the tab is in. -/
def foreign (tab : Tab) : Incoming → Bool
  | .message message =>
      match carried message, tab.currentCall with
      | some callId, some current => callId ≠ current
      | _, _ => false
  | _ => false

/-- The peer connection with the rest of the hook, the states of the page and the navigation
that has begun are as they were. -/
def Undisturbed (before after : Tab) : Prop :=
  after.hook = before.hook ∧ after.page = before.page ∧ after.router = before.router

instance (before after : Tab) : Decidable (before.Undisturbed after) :=
  inferInstanceAs (Decidable (_ ∧ _ ∧ _))

/-- The hook has nothing to do with an event: there is no connection, or it is in no state for
the event or refuses it, the partner has joined before, or the page of a call is about to be
left and has nothing more to clean up. -/
def hookIdle (browser : Browser) (tab : Tab) : Message → Bool
  | .callAccepted _ _ _ => tab.hook.partnerJoined
  | .signalOffer _ sdp =>
      tab.hook.pc.all
        (fun pc =>
          tab.page.isInitiator || decide (pc.signalingState ≠ .stable)
            || !browser.takesDescription pc sdp)
  | .signalAnswer _ sdp =>
      tab.hook.pc.all
        (fun pc =>
          !tab.page.isInitiator || decide (pc.signalingState ≠ .haveLocalOffer)
            || !browser.takesDescription pc sdp)
  | .signalIce _ candidate =>
      tab.hook.pc.all (fun pc => !browser.takesCandidate pc candidate)
  | .callEnded _ _ =>
      match tab.page with
      | .call _ =>
          tab.hook.pc.isNone && !tab.hook.offerSent && !tab.hook.remoteStream
            && !tab.localStream && decide (tab.router = some .home)
      | _ => false
  | _ => true

/-- The page of a call knows the partner whom an acceptance names. -/
def pageIdle (tab : Tab) : Message → Bool
  | .callAccepted _ acceptorId initiatorId =>
      match tab.page with
      | .call content =>
          if content.isInitiator then
            decide (content.partnerUserId = some acceptorId)
          else
            initiatorId.all (fun id => content.partnerUserId = some id)
      | _ => true
  | _ => true

/-- An event does nothing to the tab. -/
def harmless (browser : Browser) (tab : Tab) : Incoming → Bool
  | .message message => (!tab.listens || tab.hookIdle browser message) && tab.pageIdle message
  | _ => true

end Tab

/-- The tab to which something is delivered next, with what it is. -/
def System.arriving (system : System) (index : Nat) : Option (Tab × Incoming) :=
  system.tabs[index]?.bind (fun tab =>
    tab.socket.bind (fun socketId =>
      (System.next socketId system.downlink).map (fun entry => (tab, entry.2))))

/-- The tab that a move delivers to. -/
def Move.delivers : Move → Option Nat
  | deliver index => some index
  | _ => none

/-- A move that delivers an event of another call to a tab leaves the tab as it was. -/
def Isolated (browser : Browser) (before : System) (move : Move) : Prop :=
  ∀ index ∈ move.delivers, ∀ arrival ∈ before.arriving index,
    arrival.1.foreign arrival.2 = true →
      arrival.1.Undisturbed (arrival.1.receive browser arrival.2).1

instance (browser : Browser) (before : System) (move : Move)
    : Decidable (Isolated browser before move) :=
  inferInstanceAs
    (Decidable (∀ index ∈ move.delivers, ∀ arrival ∈ before.arriving index, _))

/-- A move delivers events of other calls only to tabs that have nothing to do with them. -/
def Spared (browser : Browser) (before : System) (move : Move) : Prop :=
  ∀ index ∈ move.delivers, ∀ arrival ∈ before.arriving index,
    arrival.1.foreign arrival.2 = true → arrival.1.harmless browser arrival.2 = true

instance (browser : Browser) (before : System) (move : Move)
    : Decidable (Spared browser before move) :=
  inferInstanceAs
    (Decidable (∀ index ∈ move.delivers, ∀ arrival ∈ before.arriving index, _))

section Commit

variable {before tab : Tab} {packets : List Packet}

/-- Without a change of a state there is no render. -/
theorem commit_same (same : tab.rendered = before.rendered)
    : Tab.commit before (tab, packets) = (tab, packets) :=
  if_pos same

variable (tab) in
/-- The effect of `AnonymousRoom` sets nothing but its own ref. -/
theorem queueEffect_eq
    : tab.queueEffect.1 = tab
      ∨ ∃ room,
          tab.page = .anonymous room
          ∧ tab.queueEffect.1
            = { tab with page := .anonymous { room with queued := true } } := by
  unfold Tab.queueEffect
  split
  · next room shown =>
      split
      · split
        · exact .inr ⟨room, shown, rfl⟩
        · exact .inl rfl
      · exact .inl rfl
  · exact .inl rfl

variable (before tab) in
/-- What a render does: it makes a connection if the hook listens and has none, and it may set
the ref of `AnonymousRoom`. -/
theorem effects_fields
    : (Tab.effects before tab).1.hook
        = (if tab.listens then tab.hook.initPeerConnection else tab.hook)
      ∧ (Tab.effects before tab).1.router = tab.router
      ∧ (Tab.effects before tab).1.page.callId = tab.page.callId
      ∧ ∀ content, tab.page = .call content →
          (Tab.effects before tab).1.page = .call content := by
  have initialised
      : ∀ start : Tab,
          start
              = (if tab.listens then { tab with hook := tab.hook.initPeerConnection }
                else tab) →
          start.hook = (if tab.listens then tab.hook.initPeerConnection else tab.hook)
          ∧ start.router = tab.router ∧ start.page = tab.page := by
    rintro start rfl
    split
    · exact ⟨rfl, rfl, rfl⟩
    · exact ⟨rfl, rfl, rfl⟩
  unfold Tab.effects
  dsimp only
  generalize started : (if tab.listens then _ else tab) = start
  obtain ⟨hook, router, page⟩ := initialised start started.symm
  rw [← page, ← hook, ← router]
  split
  · exact ⟨rfl, rfl, rfl, fun _ shown => shown⟩
  · rcases queueEffect_eq start with same | ⟨room, shown, same⟩
    · rw [same]
      exact ⟨rfl, rfl, rfl, fun _ shown => shown⟩
    · rw [same, shown]
      exact ⟨rfl, rfl, rfl, fun _ other => by cases other⟩

variable (before) in
/-- What a change becomes when it has been rendered, or not. -/
theorem commit_fields (changed : Tab × List Packet)
    : ((Tab.commit before changed).1.hook = changed.1.hook
        ∨ (Tab.commit before changed).1.hook = changed.1.hook.initPeerConnection)
      ∧ (Tab.commit before changed).1.page.callId = changed.1.page.callId
      ∧ ∀ content, changed.1.page = .call content →
          (Tab.commit before changed).1.page = .call content := by
  unfold Tab.commit
  split
  · exact ⟨.inl rfl, rfl, fun _ shown => shown⟩
  · obtain ⟨hook, _, callId, content⟩ := effects_fields before changed.1
    refine ⟨?_, callId, content⟩
    dsimp only
    rw [hook]
    split
    · exact .inr rfl
    · exact .inl rfl

@[simp]
theorem initPeerConnection_partnerJoined (hook : UseWebRTC)
    : hook.initPeerConnection.partnerJoined = hook.partnerJoined := by
  unfold UseWebRTC.initPeerConnection
  split
  · rfl
  · rfl

end Commit

section Events

variable {browser : Browser} {tab : Tab} {message : Message}

/-- The page keeps its state at an event of a call that it has nothing to do with. -/
theorem page_receive_of_idle (ofCall : (carried message).isSome)
    (idle : tab.pageIdle message = true)
    : tab.page.receive message = tab.page := by
  cases shown : tab.page with
  | home => rfl
  | dashboard incomingCall =>
      cases message with
      | callIncoming _ _ _ _ => cases ofCall
      | _ => rfl
  | anonymous room =>
      cases message with
      | matchQueued _ _ _ => cases ofCall
      | queueStatus _ _ => cases ofCall
      | matchFound _ _ _ _ _ => cases ofCall
      | contactSaveRequest _ _ _ => cases ofCall
      | _ => rfl
  | call content =>
      cases message with
      | callIncoming _ _ _ _ => cases ofCall
      | callAccepted callId acceptorId initiatorId =>
          obtain ⟨own, isInitiator, partnerUserId, contactRequestSent⟩ := content
          simp only [Tab.pageIdle, shown] at idle
          cases isInitiator with
          | true =>
              rw [if_pos rfl, decide_eq_true_eq] at idle
              subst idle
              rfl
          | false =>
              cases initiatorId with
              | none => rfl
              | some id =>
                  have known : partnerUserId = some id := by simpa using idle
                  subst known
                  rfl
      | _ => rfl

/-- So does the hook. -/
theorem receiveHook_of_idle (idle : tab.hookIdle browser message = true)
    : (tab.receiveHook browser message).1 = tab := by
  cases message with
  | callAccepted callId acceptorId initiatorId =>
      have joined : tab.hook.partnerJoined = true := idle
      simp only [Tab.receiveHook, UseWebRTC.handleAccepted, ← joined]
  | signalOffer callId sdp =>
      simp only [Tab.hookIdle] at idle
      simp only [Tab.receiveHook, UseWebRTC.handleOffer]
      cases connection : tab.hook.pc with
      | none => rfl
      | some pc =>
          rw [connection, Option.all_some] at idle
          dsimp only
          split
          · rfl
          · next follows =>
              split
              · rfl
              · next stable =>
                  rw [if_neg]
                  simpa [follows, stable] using idle
  | signalAnswer callId sdp =>
      simp only [Tab.hookIdle] at idle
      simp only [Tab.receiveHook, UseWebRTC.handleAnswer]
      cases connection : tab.hook.pc with
      | none => rfl
      | some pc =>
          rw [connection, Option.all_some] at idle
          dsimp only
          split
          · rfl
          · next leads =>
              split
              · rfl
              · next offered =>
                  rw [if_neg]
                  simpa [leads, offered] using idle
  | signalIce callId candidate =>
      simp only [Tab.hookIdle] at idle
      simp only [Tab.receiveHook, UseWebRTC.handleIce]
      cases connection : tab.hook.pc with
      | none => rfl
      | some pc =>
          rw [connection, Option.all_some] at idle
          dsimp only
          rw [if_neg (by simpa using idle)]
  | callEnded callId reason =>
      simp only [Tab.hookIdle] at idle
      split at idle
      · next content shown =>
          obtain ⟨_, _, _, _, _, ⟨_, _, _, _, _⟩, _⟩ := tab
          simp only [Bool.and_eq_true, Bool.not_eq_true', decide_eq_true_eq,
            Option.isNone_iff_eq_none] at idle shown
          obtain ⟨⟨⟨⟨rfl, rfl⟩, rfl⟩, rfl⟩, rfl⟩ := idle
          subst shown
          rfl
      · cases idle
  | _ => rfl

/-- What has nothing to do with an event stays as it is. -/
theorem receive_of_harmless (ofCall : (carried message).isSome)
    (harmless : tab.harmless browser (.message message) = true)
    : (tab.receive browser (.message message)).1 = tab := by
  simp only [Tab.harmless, Bool.and_eq_true, Bool.or_eq_true, Bool.not_eq_true'] at harmless
  have handled
      : (if tab.listens then tab.receiveHook browser message else (tab, [])).1 = tab := by
    rcases harmless.1 with deaf | idle
    · rw [deaf]
      rfl
    · split
      · exact receiveHook_of_idle idle
      · rfl
  have unchanged : (tab.receiveMessage browser message).1 = tab := by
    simp only [Tab.receiveMessage]
    rw [handled, page_receive_of_idle ofCall harmless.2]
  simp only [Tab.receive, Tab.commit, unchanged, if_true]

@[simp]
theorem perform_operations (pc : PeerConnection) (operation : Operation)
    (state : SignalingState)
    : (pc.perform operation state).operations = pc.operations ++ [operation] :=
  rfl

/-- A connection that is there is kept. -/
theorem initPeerConnection_some {hook : UseWebRTC} {pc : PeerConnection}
    (connection : hook.pc = some pc)
    : hook.initPeerConnection = hook := by
  unfold UseWebRTC.initPeerConnection
  rw [connection]

/-- Offers, answers and candidates. -/
def negotiation : Message → Bool
  | .signalOffer _ _ | .signalAnswer _ _ | .signalIce _ _ => true
  | _ => false

variable (browser) in
/-- Negotiation keeps a connection, if there is one, and leaves it as it was only if the hook
has nothing to do with it. -/
theorem receiveHook_negotiation (negotiates : negotiation message = true)
    {pc : PeerConnection} (connection : tab.hook.pc = some pc)
    : ∃ later,
        (tab.receiveHook browser message).1.hook.pc = some later
        ∧ (later = pc → tab.hookIdle browser message = true) := by
  have longer {later : PeerConnection}
      (grown : pc.operations.length < later.operations.length)
      : later ≠ pc := by
    rintro rfl
    exact absurd grown (Nat.lt_irrefl _)
  cases message with
  | signalOffer callId sdp =>
      simp only [Tab.receiveHook, UseWebRTC.handleOffer, Tab.hookIdle, connection,
        Option.all_some]
      split
      · next leads => exact ⟨pc, connection, fun _ => by simp [leads]⟩
      · split
        · next busy => exact ⟨pc, connection, fun _ => by simp [busy]⟩
        · split
          · exact ⟨_, rfl, fun same => absurd same (longer (by simp))⟩
          · next refused => exact ⟨pc, connection, fun _ => by simp [refused]⟩
  | signalAnswer callId sdp =>
      simp only [Tab.receiveHook, UseWebRTC.handleAnswer, Tab.hookIdle, connection,
        Option.all_some]
      split
      · next follows => exact ⟨pc, connection, fun _ => by simp [follows]⟩
      · split
        · next idle => exact ⟨pc, connection, fun _ => by simp [idle]⟩
        · split
          · exact ⟨_, rfl, fun same => absurd same (longer (by simp))⟩
          · next refused => exact ⟨pc, connection, fun _ => by simp [refused]⟩
  | signalIce callId candidate =>
      simp only [Tab.receiveHook, UseWebRTC.handleIce, Tab.hookIdle, connection,
        Option.all_some]
      split
      · exact ⟨_, rfl, fun same => absurd same (longer (by simp))⟩
      · next refused => exact ⟨pc, connection, fun _ => by simp [refused]⟩
  | _ => cases negotiates

/-- Who is undisturbed by offers, answers and candidates has nothing to do with them. -/
theorem hookIdle_of_negotiation (negotiates : negotiation message = true)
    (listens : tab.listens = true)
    (same : (tab.receive browser (.message message)).1.hook = tab.hook)
    : tab.hookIdle browser message = true := by
  cases connection : tab.hook.pc with
  | none =>
      cases message with
      | signalOffer _ _ => simp [Tab.hookIdle, connection]
      | signalAnswer _ _ => simp [Tab.hookIdle, connection]
      | signalIce _ _ => simp [Tab.hookIdle, connection]
      | _ => cases negotiates
  | some pc =>
      obtain ⟨later, found, idle⟩ :=
        receiveHook_negotiation browser negotiates connection
      have received : (tab.receiveMessage browser message).1.hook.pc = some later := by
        simpa only [Tab.receiveMessage, listens, if_true] using found
      have kept : (tab.receive browser (.message message)).1.hook.pc = some later := by
        rcases (commit_fields tab (tab.receiveMessage browser message)).1 with as_is | init
        · rw [Tab.receive, as_is, received]
        · rw [Tab.receive, init, initPeerConnection_some received, received]
      rw [same, connection] at kept
      exact idle (Option.some.inj kept).symm

/-- The same holds of an acceptance: once the partner has joined, it stays so. -/
theorem hookIdle_of_accepted {callId : Text} {acceptor : Uuid} {initiator : Option Uuid}
    (accepted : message = .callAccepted callId acceptor initiator)
    (listens : tab.listens = true)
    (same : (tab.receive browser (.message message)).1.hook = tab.hook)
    : tab.hookIdle browser message = true := by
  have joined : (tab.receiveMessage browser message).1.hook.partnerJoined = true := by
    simp [Tab.receiveMessage, listens, accepted, Tab.receiveHook, UseWebRTC.handleAccepted]
  have kept : (tab.receive browser (.message message)).1.hook.partnerJoined = true := by
    rcases (commit_fields tab (tab.receiveMessage browser message)).1 with as_is | init
    · rw [Tab.receive, as_is, joined]
    · rw [Tab.receive, init, initPeerConnection_partnerJoined, joined]
  rw [same] at kept
  rwa [accepted]

/-- The end of a call takes `AnonymousRoom` out of its call, and `CallContent` home. Whoever
is undisturbed had nothing left to clean up and was on the way. -/
theorem hookIdle_of_ended {callId : Text} {reason : EndReason}
    (ended : message = .callEnded callId reason) (listens : tab.listens = true)
    (same : tab.Undisturbed (tab.receive browser (.message message)).1)
    : tab.hookIdle browser message = true := by
  have inCall : tab.page.callId.truthy = true := (Bool.and_eq_true _ _ |>.mp listens).2
  cases shown : tab.page with
  | home =>
      rw [shown] at inCall
      cases inCall
  | dashboard incomingCall =>
      rw [shown] at inCall
      cases inCall
  | anonymous room =>
      have left : (tab.receiveMessage browser message).1.page.callId = .empty := by
        simp [Tab.receiveMessage, listens, ended, Tab.receiveHook, Tab.onCallEnded, shown,
          Page.receive, AnonymousRoom.receive, Page.callId]
      have gone := (commit_fields tab (tab.receiveMessage browser message)).2.1
      change (tab.receive browser (.message message)).1.page.callId = _ at gone
      rw [left, same.2.1] at gone
      rw [gone] at inCall
      cases inCall
  | call content =>
      have changed
          : tab.receiveMessage browser message
            = ({
                  tab with
                  hook := tab.hook.cleanupPeerConnection
                  localStream := false
                  router := some .home
                },
                []) := by
        simp [Tab.receiveMessage, listens, ended, Tab.receiveHook, Tab.onCallEnded, shown,
          Page.receive, CallContent.receive]
      obtain ⟨hook, _, router⟩ := same
      rw [Tab.receive, changed] at hook router
      by_cases quiet
          : ({
                tab with
                hook := tab.hook.cleanupPeerConnection
                localStream := false
                router := some .home
              } : Tab).rendered
            = tab.rendered
      · rw [commit_same quiet] at hook router
        dsimp only at hook router
        have media : false = tab.localStream := congrArg (fun shows => shows.2.1) quiet
        have connection : none = tab.hook.pc := congrArg UseWebRTC.pc hook
        have offer : false = tab.hook.offerSent := congrArg UseWebRTC.offerSent hook
        have stream : false = tab.hook.remoteStream := congrArg UseWebRTC.remoteStream hook
        simp [ended, Tab.hookIdle, shown, ← connection, ← offer, ← stream, ← media,
          ← router]
      · -- the render makes a new connection
        rw [Tab.commit, if_neg quiet] at hook
        dsimp only at hook
        rw [(effects_fields _ _).1, if_pos (by simpa [Tab.listens] using listens)] at hook
        have made := congrArg UseWebRTC.connections hook
        simp [UseWebRTC.initPeerConnection, UseWebRTC.cleanupPeerConnection] at made

/-- The states that an acceptance sets on the page of a call. -/
theorem pageIdle_of_undisturbed (ofCall : (carried message).isSome)
    (same : (tab.receive browser (.message message)).1.page = tab.page)
    : tab.pageIdle message = true := by
  cases message with
  | callAccepted callId acceptorId initiatorId =>
      cases shown : tab.page with
      | call content =>
          have received
              : (tab.receiveMessage browser
                  (.callAccepted callId acceptorId initiatorId)).1.page
                = .call (content.receive (.callAccepted callId acceptorId initiatorId)) := by
            simp only [Tab.receiveMessage]
            split
            · simp only [Tab.receiveHook, shown, Page.receive]
            · simp only [shown, Page.receive]
          have kept := (commit_fields tab (tab.receiveMessage browser _)).2.2 _ received
          rw [Tab.receive, kept, shown] at same
          have content_same := Page.call.inj same
          simp only [Tab.pageIdle, shown]
          simp only [CallContent.receive] at content_same
          cases role : content.isInitiator with
          | true =>
              rw [role, if_pos rfl] at content_same
              simpa using (congrArg CallContent.partnerUserId content_same).symm
          | false =>
              rw [role] at content_same
              cases initiatorId with
              | none => rfl
              | some id =>
                  simpa using (congrArg CallContent.partnerUserId content_same).symm
      | _ => simp [Tab.pageIdle, shown]
  | _ => rfl

/-- An event of a call leaves a tab as it is exactly if the tab has nothing to do with it. -/
theorem undisturbed_iff (ofCall : (carried message).isSome)
    : tab.Undisturbed (tab.receive browser (.message message)).1
      ↔ tab.harmless browser (.message message) = true := by
  constructor
  · intro same
    simp only [Tab.harmless, Bool.and_eq_true, Bool.or_eq_true, Bool.not_eq_true']
    refine ⟨?_, pageIdle_of_undisturbed ofCall same.2.1⟩
    cases listens : tab.listens with
    | false => exact .inl rfl
    | true =>
        right
        cases message with
        | callAccepted _ _ _ => exact hookIdle_of_accepted rfl listens same.1
        | signalOffer _ _ => exact hookIdle_of_negotiation rfl listens same.1
        | signalAnswer _ _ => exact hookIdle_of_negotiation rfl listens same.1
        | signalIce _ _ => exact hookIdle_of_negotiation rfl listens same.1
        | callEnded _ _ => exact hookIdle_of_ended rfl listens same
        | _ => cases ofCall
  · intro harmless
    rw [receive_of_harmless ofCall harmless]
    exact ⟨rfl, rfl, rfl⟩

end Events

/-- In every run of tabs and gateway, no event of another call changes the peer connection of
a client or the states of its call and of its matchmaking, exactly if every such event reaches
a client that has nothing to do with it. -/
theorem client_isolation {runtime : Runtime} {browser : Browser} {moves : List Move}
    {system : System} (run : (clientMachine runtime browser).Reaches moves system)
    : (clientMachine runtime browser).Along (Isolated browser) .start moves
      ↔ (clientMachine runtime browser).Along (Spared browser) .start moves := by
  refine Machine.along_congr (clientMachine runtime browser) (fun _ => True)
    (fun _ _ => trivial) ?_ trivial run
  intro before move next _ _
  refine forall_congr' fun index => imp_congr_right fun _ => ?_
  refine forall_congr' fun arrival => imp_congr_right fun _ => ?_
  refine imp_congr_right fun foreign => ?_
  obtain ⟨tab, incoming⟩ := arrival
  cases incoming with
  | connected => cases foreign
  | ack callId => cases foreign
  | message message =>
      have ofCall : (carried message).isSome := by
        simp only [Tab.foreign] at foreign
        split at foreign
        · next carries _ => simp [carries]
        · cases foreign
      exact undisturbed_iff ofCall

/-- A browser that refuses candidates before it has a remote description. -/
def plainBrowser : Browser where
  createOffer _ := "offer"
  createAnswer _ := "answer"
  takesDescription _ _ := true
  takesCandidate pc _ :=
    pc.operations.any
      (fun operation =>
        match operation with
        | .setRemoteDescription _ => true
        | _ => false)

/-- The system after a run of visitors. -/
def systemAfter (moves : List Move) : System :=
  ((clientMachine plainRuntime plainBrowser).exec .start moves).getD .start

/-- Two of three visitors are matched in the call 204, while the third one waits. -/
def matchedVisitors : List Move :=
  [
    .newTab none, .newTab none, .newTab none,
    .visit 0 .anonymous 11, .visit 1 .anonymous 12, .visit 2 .anonymous 13,
    .serve 0 11 101, .serve 0 12 102, .serve 0 13 103,
    .deliver 0, .serve 1000 11 201, .serve 1000 11 202,
    .deliver 1, .serve 2000 12 203, .serve 2000 12 204
  ]
    ++ List.replicate 7 (.deliver 0) ++ List.replicate 7 (.deliver 1)
    ++ [.deliver 2, .serve 3000 13 205, .serve 3000 13 206]

/-- The gateway serves the first hang-up of the first visitor, and matches the second one with
the third in the call 210. -/
def rematched : List Move := [
  .serve 4000 11 207, .serve 4000 11 208, .deliver 1, .deliver 1,
  .serve 5000 12 209, .serve 5000 12 210, .deliver 1, .deliver 1, .deliver 1
]

/-- The first visitor's connection fails and is made anew, and its candidate for the old call
reaches the second visitor in the new one. -/
def lateCandidate : List Move :=
  matchedVisitors
    ++ [.act 0 .endCall, .act 0 (.media true), .act 0 (.iceCandidate "candidate")]
    ++ rematched
    ++ [.serve 6000 11 211, .deliver 1, .deliver 1]

/-- A connection without a remote description refuses the candidate. -/
theorem client_isolation_candidate
    : (clientMachine plainRuntime plainBrowser).Along (Isolated plainBrowser) .start
        lateCandidate := by
  obtain ⟨system, run⟩
      : ∃ system, (clientMachine plainRuntime plainBrowser).exec .start lateCandidate
          = some system :=
    Option.isSome_iff_exists.mp (by decide +kernel)
  exact (client_isolation run).mpr (by decide +kernel)

/-- The first visitor's connection fails, which hangs up, and the visitor hangs up as well
before the gateway's answer is there. -/
def lateHangUp : List Move :=
  matchedVisitors ++ [.act 0 .endCall, .act 0 .leave] ++ rematched
    ++ [.serve 6000 11 211, .deliver 1, .deliver 1]

/-- The second hang-up reaches the second visitor in the new call and takes it out of it. -/
theorem late_hang_up_ends
    : ((clientMachine plainRuntime plainBrowser).exec .start lateHangUp).isSome
      ∧ (systemAfter lateHangUp.dropLast).tabs[1]?.bind Tab.currentCall = some (.uuid 210)
      ∧ (systemAfter lateHangUp).tabs[1]?.bind Tab.currentCall = none
      ∧ ¬ (clientMachine plainRuntime plainBrowser).Along (Isolated plainBrowser) .start
          lateHangUp := by
  refine ⟨?_, ?_, ?_, ?_⟩ <;> decide +kernel

end NexusComms.Frontend
