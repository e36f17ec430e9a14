import NexusComms.Sfu.Separation

/-! Who is in a room, and what becomes of it when a peer is removed: the peer's transports are
closed with all that lives on them, the room with its last transport, and nothing else.
-/

namespace NexusComms.Sfu.Streams

open Concurrency Signaling Storage

/-- A peer has been given this transport for the room, on the router. -/
def Given (pool : Pool Service Call) (roomId : Text) (router : Uuid) (peerId : SocketId)
    (transportId : Uuid)
    : Prop :=
  ⟨.createWebRtcTransport roomId peerId, .returned (.transport transportId)⟩ ∈ pool.threads
  ∧ pool.shared.library.On transportId router

namespace Standing

variable {pool : Pool Service Call} {roomId : Text} {router transportId : Uuid}
  {peerId : SocketId}

/-- Those are the transports that the library has on the router for the peer. -/
theorem given_iff (standing : Standing pool) (accounted : Accounted pool)
    (hosts : pool.shared.Hosts roomId router)
    : Given pool roomId router peerId transportId
      ↔ pool.shared.library.Has transportId (.transport peerId) [router] := by
  constructor
  · rintro ⟨member, on⟩
    cases standing.stands _ member with
    | added _ there =>
        cases List.mem_singleton.mp (there.on_iff.mp on)
        exact there
  · intro there
    exact ⟨standing.transport_made accounted hosts there, there.on_iff.mpr List.mem_cons_self⟩

end Standing

-----------------------------------------------------------------------------------------
-- Who is in a room
-----------------------------------------------------------------------------------------

namespace Room.Sound

variable {library : Library} {room : Room}

/-- In an open room the participants are the peers that own an open transport of its router. -/
theorem mem_participants (sound : room.Sound library)
    (isOpen : library.isOpen room.router = true) {peerId : SocketId}
    : peerId ∈ room.participants
      ↔ ∃ transportId,
          library.Has transportId (.transport peerId) [room.router]
          ∧ library.isOpen transportId = true := by
  rw [sound.participants]
  constructor
  · rintro ⟨transportId, registered⟩
    exact ⟨transportId, sound.made registered, sound.isOpen registered isOpen⟩
  · rintro ⟨transportId, there, isOpen⟩
    exact ⟨transportId, sound.registered there isOpen⟩

/-- Nobody is left when a peer is removed exactly if nobody else owns an open transport. -/
theorem emptied_iff (sound : room.Sound library)
    (isOpen : library.isOpen room.router = true) {peerId : SocketId}
    : (room.without peerId).participants = []
      ↔ ∀ owner transportId,
          library.Has transportId (.transport owner) [room.router] →
            library.isOpen transportId = true → owner = peerId := by
  simp only [Room.without, List.filter_eq_nil_iff, sound.mem_participants isOpen,
    decide_eq_true_eq, Decidable.not_not]
  constructor
  · exact fun all owner transportId there isOpen => all owner ⟨transportId, there, isOpen⟩
  · rintro all owner ⟨transportId, there, isOpen⟩
    exact all owner transportId there isOpen

end Room.Sound

variable {compatible : Uuid → Capabilities → Bool} {moves : List (Move Call Completion)}
  {pool next : Pool Service Call} {roomId : Text}

/-- In every interleaving, `getRoomInfo` counts the peers that own an open transport of the
room, as long as its worker lives. -/
theorem getRoomInfo_counts (run : (sfuMachine compatible).Reaches moves pool) {info : RoomInfo}
    (found : pool.shared.getRoomInfo roomId = some info)
    (isOpen : pool.shared.library.isOpen info.routerRtpCaps = true)
    : ∃ peers : List SocketId,
        peers.Nodup
        ∧ info.participantCount = peers.length
        ∧ ∀ peerId,
            peerId ∈ peers
              ↔ ∃ transportId,
                  Given pool roomId info.routerRtpCaps peerId transportId
                  ∧ pool.shared.library.isOpen transportId = true := by
  have standing := Standing.reaches run
  have accounted := Accounted.reaches run
  obtain ⟨⟨ref, room⟩, there, rfl⟩ := Option.map_eq_some_iff.mp found
  obtain ⟨holds, contents⟩ := standing.sound.found there
  refine ⟨room.participants, contents.nodup, rfl, fun peerId => ?_⟩
  rw [contents.mem_participants isOpen]
  simp only [standing.given_iff accounted holds.hosts]

theorem getRoomInfo_counts_heard
    : ∃ peers : List SocketId,
        peers.length = 2
        ∧ ∀ peerId,
            peerId ∈ peers
              ↔ ∃ transportId,
                  Given (poolAfter heard) (.other 0) 2 peerId transportId
                  ∧ (poolAfter heard).shared.library.isOpen transportId = true := by
  have run : (sfuMachine (fun _ _ => true)).Reaches heard (poolAfter heard) := rfl
  have found : (poolAfter heard).shared.getRoomInfo (.other 0) = some ⟨.other 0, 2, 2⟩ := by
    decide
  obtain ⟨peers, _, count, given⟩ := getRoomInfo_counts run found (by decide)
  exact ⟨peers, count.symm, given⟩

-----------------------------------------------------------------------------------------
-- What a removal closes
-----------------------------------------------------------------------------------------

namespace Sound

variable {service : Service} {ref : Nat} {room : Room} {peerId : SocketId}

/-- An object other than a worker or a router is closed by a removal exactly if it lives on a
transport of the peer in the room. -/
theorem removal_media (sound : Sound service) (found : service.room roomId = some (ref, room))
    {media : Uuid} {value : Resource} {parents : List Uuid}
    (there : service.library.Has media value parents)
    (notWorker : ∀ watched, value ≠ .worker watched) (notRouter : value ≠ .router)
    : (service.removeParticipant roomId peerId).library.isOpen media = true
      ↔ service.library.isOpen media = true
        ∧ ∀ transportId,
            service.library.Has transportId (.transport peerId) [room.router] →
              ¬ service.library.DependsOn media transportId := by
  have here := List.mem_of_getElem? (Service.room_some.mp found).2
  obtain ⟨contents, worker, isRouter⟩ := sound.rooms room here
  rw [Service.removeParticipant_found found, Lifetimes.isOpen_closeAll]
  refine and_congr_right (fun isOpen => ?_)
  constructor
  · intro away transportId made depends
    have above := Lifetimes.isOpen_of_dependsOn isOpen depends
    exact away transportId
      (Room.Sound.mem_leaving.mpr (Or.inl (contents.registered made above))) depends
  · intro apart target leaving depends
    rcases Room.Sound.mem_leaving.mp leaving with registered | ⟨emptied, rfl⟩
    · exact apart target (contents.made registered) depends
    · obtain ⟨router, member, home⟩ := sound.wired.home there notWorker
      obtain ⟨other, there', rfl⟩ := List.mem_map.mp member
      obtain ⟨_, worker', isRouter'⟩ := sound.rooms other there'
      have same := home.router_eq sound.wired isRouter' isRouter depends
      have emptied := (contents.emptied_iff (Lifetimes.isOpen_of_dependsOn isOpen depends)).mp
        emptied
      have on {transportId owner} (has : service.library.Has transportId (.transport owner)
          [other.router]) (depends : service.library.DependsOn media transportId) : False := by
        rw [← same] at has
        cases emptied owner transportId has (Lifetimes.isOpen_of_dependsOn isOpen depends)
        exact apart transportId has depends
      cases home with
      | router there'' => exact notRouter (there''.unique there).1
      | transport has => exact on has .refl
      | producer has transport =>
          exact on transport ((Wired.producer_iff has).mpr (Or.inr .refl))
      | consumer has transport _ _ =>
          exact on transport ((Wired.consumer_iff has).mpr (Or.inr (Or.inl .refl)))

/-- A worker or router lives on itself and on workers only. -/
theorem below (sound : Sound service) {index target : Uuid} {value : Resource}
    {parents : List Uuid} (there : service.library.Has index value parents)
    (kind : (∃ watched, value = .worker watched) ∨ value = .router)
    (depends : service.library.DependsOn index target)
    : target = index ∨ ∃ watched, service.library.Has target (.worker watched) [] := by
  rcases kind with ⟨watched, rfl⟩ | rfl
  · exact Or.inl ((sound.wired.worker_iff there).mp depends)
  · obtain ⟨_, worker, watched, rfl, lives⟩ := sound.wired _ _ _ there
    refine ((sound.wired.router_iff there).mp depends).imp_right ?_
    rintro rfl
    exact ⟨watched, lives⟩

/-- So it lives on no transport. -/
theorem not_below (sound : Sound service) {index transportId router : Uuid} {owner : SocketId}
    {value : Resource} {parents : List Uuid}
    (there : service.library.Has index value parents)
    (kind : (∃ watched, value = .worker watched) ∨ value = .router)
    (made : service.library.Has transportId (.transport owner) [router])
    : ¬ service.library.DependsOn index transportId := by
  intro depends
  rcases sound.below there kind depends with rfl | ⟨watched, lives⟩
  · obtain ⟨same, _⟩ := made.unique there
    rcases kind with ⟨watched, rfl⟩ | rfl
    · cases same
    · cases same
  · cases (made.unique lives).1

/-- Of the workers and routers, a removal closes at most the router of the room, and that one
exactly if the room has lost its last participant. -/
theorem removal_other (sound : Sound service) (found : service.room roomId = some (ref, room))
    {index : Uuid} {value : Resource} {parents : List Uuid}
    (there : service.library.Has index value parents)
    (kind : (∃ watched, value = .worker watched) ∨ value = .router)
    : (service.removeParticipant roomId peerId).library.isOpen index = true
      ↔ service.library.isOpen index = true
        ∧ ¬ (index = room.router ∧ (room.without peerId).participants = []) := by
  have here := List.mem_of_getElem? (Service.room_some.mp found).2
  obtain ⟨contents, worker, isRouter⟩ := sound.rooms room here
  rw [Service.removeParticipant_found found, Lifetimes.isOpen_closeAll]
  refine and_congr_right (fun _ => ⟨?_, ?_⟩)
  · rintro away ⟨rfl, emptied⟩
    exact away room.router (Room.Sound.mem_leaving.mpr (Or.inr ⟨emptied, rfl⟩)) .refl
  · intro apart target leaving depends
    rcases Room.Sound.mem_leaving.mp leaving with registered | ⟨emptied, rfl⟩
    · exact sound.not_below there kind (contents.made registered) depends
    · rcases sound.below there kind depends with same | ⟨watched, lives⟩
      · exact apart ⟨same.symm, emptied⟩
      · cases (isRouter.unique lives).1

end Sound

/-- In every interleaving, removing a peer from a room closes the transports that the peer has
been given for it, with all that lives on them, and of the routers at most that of the room,
exactly if nobody else has an open transport there. Everything else stays as open as it was. -/
theorem removal_closes_exactly (run : (sfuMachine compatible).Reaches moves pool)
    {peerId : SocketId}
    (moved
      : (sfuProgram compatible).move pool
          (.start ⟨.removeParticipant roomId peerId, .returned .nothing⟩)
        = some next)
    {ref : Nat} {room : Room} (found : pool.shared.room roomId = some (ref, room))
    {index : Uuid} {value : Resource} {parents : List Uuid}
    (there : pool.shared.library.Has index value parents)
    : next.shared.library.isOpen index = true
      ↔ pool.shared.library.isOpen index = true
        ∧ (∀ transportId,
            Given pool roomId room.router peerId transportId →
              ¬ pool.shared.library.DependsOn index transportId)
        ∧ (index = room.router →
            ∃ owner transportId,
              owner ≠ peerId
              ∧ Given pool roomId room.router owner transportId
              ∧ pool.shared.library.isOpen transportId = true) := by
  have standing := Standing.reaches run
  have accounted := Accounted.reaches run
  have sound := standing.sound
  have removed : pool.shared.removeParticipant roomId peerId = next.shared := by
    obtain ⟨started, _⟩ := Program.move_start_some _ moved
    simp only [sfuProgram] at started
    split at started
    · exact Option.some.inj started
    · cases started
  obtain ⟨holds, contents⟩ := sound.found found
  have here := List.mem_of_getElem? (Service.room_some.mp found).2
  obtain ⟨_, worker, isRouter⟩ := sound.rooms room here
  simp only [standing.given_iff accounted holds.hosts, ← removed]
  by_cases kind : (∃ watched, value = .worker watched) ∨ value = .router
  · rw [sound.removal_other found there kind]
    refine and_congr_right (fun isOpen => ?_)
    have away (transportId : Uuid)
        (made : pool.shared.library.Has transportId (.transport peerId) [room.router])
        : ¬ pool.shared.library.DependsOn index transportId :=
      sound.not_below there kind made
    rw [and_iff_right away, not_and]
    refine imp_congr_right ?_
    rintro rfl
    rw [contents.emptied_iff isOpen]
    simp only [not_forall, exists_prop]
    exact exists₂_congr (fun owner transportId => by tauto)
  · have notWorker (watched : Bool) : value ≠ .worker watched :=
      fun same => kind (Or.inl ⟨watched, same⟩)
    have notRouter : value ≠ .router := fun same => kind (Or.inr same)
    rw [sound.removal_media found there notWorker notRouter]
    refine and_congr_right (fun _ => (and_iff_left ?_).symm)
    rintro rfl
    exact absurd (isRouter.unique there).1 notRouter

/-- The first peer is removed from the room. -/
def removing : Move Call Completion :=
  .start ⟨.removeParticipant (.other 0) 7, .returned .nothing⟩

/-- So what the second one consumes is closed. -/
theorem removal_closes_exactly_heard
    : (poolAfter (heard ++ [removing])).shared.library.isOpen 6 = false := by
  have run : (sfuMachine (fun _ _ => true)).Reaches heard (poolAfter heard) := rfl
  have moved
      : (sfuProgram (fun _ _ => true)).move (poolAfter heard) removing
        = some (poolAfter (heard ++ [removing])) :=
    rfl
  have found
      : (poolAfter heard).shared.room (.other 0)
        = some (0, ⟨.other 0, 2, [(7, 3), (8, 4)], [5], [6], [8, 7]⟩) := by
    decide
  have there
      : (poolAfter heard).shared.library.Has 6 (.consumer .audio) [4, 5] := ⟨false, rfl⟩
  have given : Given (poolAfter heard) (.other 0) 2 7 3 :=
    ⟨by decide, _, _, ⟨false, rfl⟩, List.mem_cons_self⟩
  have producer : (poolAfter heard).shared.library.Has 5 (.producer .audio) [3] := ⟨false, rfl⟩
  have lives : (poolAfter heard).shared.library.DependsOn 6 3 :=
    (Wired.consumer_iff there).mpr (Or.inr (Or.inr ((Wired.producer_iff producer).mpr
      (Or.inr .refl))))
  refine Bool.eq_false_iff.mpr (fun isOpen => ?_)
  exact ((removal_closes_exactly run moved found there).mp isOpen).2.1 3 given lives

end NexusComms.Sfu.Streams
