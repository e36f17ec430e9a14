import Mathlib.Data.List.Dedup
import NexusComms.Presence.Connections

/-! The index of presence. However connections and disconnections overlap, `userSockets` is the
inverse image of the users in `sockets`, and when no handler is in progress `sockets` has
exactly the connected sockets.
-/

namespace NexusComms.Presence

open Concurrency Signaling Storage

/-- The key of `userSockets` under which a socket belongs. -/
def tabOf (gateway : Gateway) (socketId : SocketId) : Option Text :=
  (gateway.userOf socketId).map Text.uuid

/-- The number of users with a socket, and of sockets without a user. -/
def registeredOnline (gateway : Gateway) : Nat :=
  (gateway.sockets.entries.filterMap (fun entry => entry.2.userId)).dedup.length

def anonymousOnline (gateway : Gateway) : Nat :=
  (gateway.sockets.entries.filter (fun entry => entry.2.userId.isNone)).length

/-- The two maps agree, without empty sets. When no handler is in progress, they contain the
connected sockets. What is emitted to the tabs of a user reaches each of the user's sockets once,
and users are counted as they should be. -/
structure Indexed (pool : Pool Directory Handler) : Prop where
  tabs
    : ∀ {key socketId},
        socketId ∈ listed pool.shared.gateway.userSockets key
          ↔ ∃ user, key = .uuid user ∧ pool.shared.gateway.userOf socketId = some user
  nonempty : ∀ {key}, pool.shared.gateway.userSockets.lookup key ≠ some []
  idle
    : (∀ handler ∈ pool.threads, handler.finished = true) →
        ∀ socketId,
          pool.shared.gateway.knows socketId = pool.shared.gateway.connected socketId
  emitted
    : ∀ user message,
        ∃ tabs : List SocketId,
          tabs.Nodup
          ∧ (∀ socketId,
              socketId ∈ tabs ↔ pool.shared.gateway.userOf socketId = some user)
          ∧ pool.shared.gateway.emitToTabs (.uuid user) message
            = tabs.map
                (fun socketId =>
                  pool.shared.gateway.emit (.room (.socket socketId)) message)
  online
    : SignalingGateway.countOnlineUsers pool.shared.gateway
      = registeredOnline pool.shared.gateway + anonymousOnline pool.shared.gateway

/-- What every interleaving keeps true of the maps. Ids are drawn once. -/
structure Directory.Sound (directory : Directory) : Prop where
  indexes : Indexes (tabOf directory.gateway) directory.gateway.userSockets
  users : ∀ userId ∈ directory.users, userId ∈ directory.drawn
  anonymous
    : ∀ {socketId known},
        directory.gateway.sockets.lookup socketId = some known →
          known.anonymousId ∈ directory.drawn ∧ known.anonymousId ∉ directory.users
  registered
    : ∀ {socketId userId},
        directory.gateway.userOf socketId = some userId → userId ∈ directory.users
  distinct
    : ∀ {socketId other known known'},
        directory.gateway.sockets.lookup socketId = some known →
          directory.gateway.sockets.lookup other = some known' →
            known.anonymousId = known'.anonymousId → socketId = other
  connected : ∀ {socketId}, directory.gateway.connected socketId = true →
    directory.gateway.knows socketId = true
  used : ∀ {socketId}, directory.gateway.knows socketId = true → socketId ∈ directory.used

-----------------------------------------------------------------------------------------
-- The steps of the maps
-----------------------------------------------------------------------------------------

section

variable {directory directory' : Directory} {socketId other : SocketId}

/-- Of the metas, only the ids matter. -/
theorem Directory.Sound.congr (sound : directory.Sound)
    (ids
      : ∀ socketId,
          (directory'.gateway.sockets.lookup socketId).map
              (fun known => (known.userId, known.anonymousId))
            = (directory.gateway.sockets.lookup socketId).map
                (fun known => (known.userId, known.anonymousId)))
    (userSockets : directory'.gateway.userSockets = directory.gateway.userSockets)
    (rooms : directory'.gateway.rooms = directory.gateway.rooms)
    (users : directory'.users = directory.users) (drawn : directory'.drawn = directory.drawn)
    (used : directory'.used = directory.used)
    : directory'.Sound := by
  have userOf (socketId : SocketId)
      : directory'.gateway.userOf socketId = directory.gateway.userOf socketId := by
    have same := congrArg (fun found => found.bind Prod.fst) (ids socketId)
    simp only [Option.bind_map] at same
    exact same
  have knows (socketId : SocketId)
      : directory'.gateway.knows socketId = directory.gateway.knows socketId := by
    have same := congrArg Option.isSome (ids socketId)
    simp only [Option.isSome_map] at same
    exact same
  have connected : directory'.gateway.connected = directory.gateway.connected := by
    unfold Gateway.connected
    rw [rooms]
  have before {socketId : SocketId} {known : SocketMeta}
      (found : directory'.gateway.sockets.lookup socketId = some known)
      : ∃ old,
          directory.gateway.sockets.lookup socketId = some old
          ∧ old.anonymousId = known.anonymousId := by
    have same := ids socketId
    rw [found] at same
    obtain ⟨old, there, equal⟩ := Option.map_eq_some_iff.mp same.symm
    exact ⟨old, there, congrArg Prod.snd equal⟩
  exact {
    indexes := by
      rw [userSockets]
      exact sound.indexes.congr (fun socketId => by simp only [tabOf, userOf])
    users := by rw [users, drawn]; exact sound.users
    anonymous := fun found => by
      obtain ⟨old, there, same⟩ := before found
      rw [← same, users, drawn]
      exact sound.anonymous there
    registered := fun user => by
      rw [users]
      exact sound.registered ((userOf _).symm.trans user)
    distinct := fun found found' equal => by
      obtain ⟨old, there, same⟩ := before found
      obtain ⟨old', there', same'⟩ := before found'
      exact sound.distinct there there' (same.trans (equal.trans same'.symm))
    connected := fun now => by
      rw [knows]
      exact sound.connected (connected ▸ now)
    used := fun known => by
      rw [used]
      exact sound.used ((knows _).symm.trans known)
  }

/-- The user of a socket after one has been forgotten. -/
theorem forgetSocket_userOf (gateway : Gateway)
    : (forgetSocket gateway socketId).userOf other
      = if other = socketId then none else gateway.userOf other := by
  unfold forgetSocket Gateway.userOf
  cases found : gateway.sockets.lookup socketId with
  | none =>
      by_cases own : other = socketId
      · subst own
        simp [found]
      · simp [own]
  | some known =>
      by_cases own : other = socketId
      · subst own
        simp [AList.lookup_erase]
      · simp [own, AList.lookup_erase_ne own]

/-- A meta that is left after a socket has been forgotten is another one's. -/
theorem forgetSocket_lookup {gateway : Gateway} {known : SocketMeta}
    (found : (forgetSocket gateway socketId).sockets.lookup other = some known)
    : other ≠ socketId ∧ gateway.sockets.lookup other = some known := by
  unfold forgetSocket at found
  cases there : gateway.sockets.lookup socketId with
  | none =>
      rw [there] at found
      refine ⟨?_, found⟩
      rintro rfl
      cases there.symm.trans found
  | some _ =>
      rw [there] at found
      refine ⟨?_, lookup_of_erase found⟩
      rintro rfl
      rw [AList.lookup_erase] at found
      cases found

/-- The index loses the socket under its key. -/
theorem forgetSocket_userSockets (gateway : Gateway)
    : (forgetSocket gateway socketId).userSockets
      = match tabOf gateway socketId with
        | none => gateway.userSockets
        | some key => removeKey gateway.userSockets key socketId := by
  unfold forgetSocket tabOf Gateway.userOf
  cases gateway.sockets.lookup socketId with
  | none => rfl
  | some known =>
      cases user : known.userId with
      | none => simp [user]
      | some userId => simp [user]

/-- The connections are left alone. -/
theorem forgetSocket_connected (gateway : Gateway)
    : (forgetSocket gateway socketId).connected = gateway.connected := by
  unfold forgetSocket
  split
  · rfl
  · rfl

/-- A socket that is known after a forgetting was known before, and it is another one. -/
theorem forgetSocket_knows (gateway : Gateway)
    : (forgetSocket gateway socketId).knows other = true
      ↔ other ≠ socketId ∧ gateway.knows other = true := by
  unfold forgetSocket Gateway.knows
  cases there : gateway.sockets.lookup socketId with
  | none =>
      refine ⟨fun known => ⟨?_, known⟩, And.right⟩
      rintro rfl
      simp [there] at known
  | some _ =>
      by_cases own : other = socketId
      · subst own
        simp [AList.lookup_erase]
      · simp [own, AList.lookup_erase_ne own]

/-- The index is kept up when a socket is forgotten. -/
theorem forgetSocket_indexes {gateway : Gateway}
    (indexes : Indexes (tabOf gateway) gateway.userSockets)
    : Indexes (tabOf (forgetSocket gateway socketId))
        (forgetSocket gateway socketId).userSockets := by
  have tabs
      : tabOf (forgetSocket gateway socketId)
        = Function.update (tabOf gateway) socketId none := by
    funext other
    rw [Function.update_apply, tabOf, forgetSocket_userOf]
    split
    · rfl
    · rfl
  rw [tabs, forgetSocket_userSockets]
  cases key : tabOf gateway socketId with
  | none => exact indexes.forget key
  | some key' => exact indexes.remove key

/-- Both maps forget a socket together. -/
theorem Directory.Sound.forget (sound : directory.Sound)
    (gone : directory.gateway.connected socketId = false)
    : ({ directory with gateway := forgetSocket directory.gateway socketId }
        : Directory).Sound where
  indexes := forgetSocket_indexes sound.indexes
  users := sound.users
  anonymous found := sound.anonymous (forgetSocket_lookup found).2
  registered {other userId} user := by
    rw [forgetSocket_userOf] at user
    split at user
    · cases user
    · exact sound.registered user
  distinct found found' same :=
    sound.distinct (forgetSocket_lookup found).2 (forgetSocket_lookup found').2 same
  connected {other} now := by
    rw [forgetSocket_connected] at now
    refine (forgetSocket_knows _).mpr ⟨?_, sound.connected now⟩
    rintro rfl
    cases now.symm.trans gone
  used known := sound.used ((forgetSocket_knows _).mp known).2

section Connect

open Signaling.SignalingGateway

/-- What `handleConnection` does to the metas. -/
theorem connect_lookup (gateway : Gateway) (userId : Option Uuid) (anonymousId : Uuid)
    : (handleConnection gateway socketId userId anonymousId).gateway.sockets.lookup other
      = if other = socketId then some { userId := userId, anonymousId := anonymousId }
        else gateway.sockets.lookup other := by
  dsimp only [handleConnection]
  split
  · next own => rw [own, AList.lookup_insert]
  · next apart => rw [AList.lookup_insert_ne apart]

/-- What it does to the index. -/
theorem connect_userSockets (gateway : Gateway) (userId : Option Uuid) (anonymousId : Uuid)
    : (handleConnection gateway socketId userId anonymousId).gateway.userSockets
      = match userId.map Text.uuid with
        | none => gateway.userSockets
        | some key => addKey gateway.userSockets key socketId := by
  cases userId with
  | none => rfl
  | some id => rfl

/-- The transport has connected the socket. -/
theorem connect_connected (gateway : Gateway) (userId : Option Uuid) (anonymousId : Uuid)
    : (handleConnection gateway socketId userId anonymousId).gateway.connected other = true
      ↔ other = socketId ∨ gateway.connected other = true := by
  rw [Gateway.connected_iff, Gateway.connected_iff]
  dsimp only [handleConnection]
  rw [List.mem_insert_iff]
  simp

/-- The index is kept up when a new socket connects. -/
theorem connect_indexes {gateway : Gateway}
    (indexes : Indexes (tabOf gateway) gateway.userSockets)
    (unknown : gateway.sockets.lookup socketId = none) (userId : Option Uuid)
    (anonymousId : Uuid)
    : Indexes (tabOf (handleConnection gateway socketId userId anonymousId).gateway)
        (handleConnection gateway socketId userId anonymousId).gateway.userSockets := by
  have absent : tabOf gateway socketId = none := by simp [tabOf, Gateway.userOf, unknown]
  have tabs
      : tabOf (handleConnection gateway socketId userId anonymousId).gateway
        = Function.update (tabOf gateway) socketId (userId.map Text.uuid) := by
    funext other
    rw [Function.update_apply, tabOf, Gateway.userOf, connect_lookup]
    split
    · rfl
    · rfl
  rw [tabs, connect_userSockets]
  cases userId.map Text.uuid with
  | none => exact indexes.forget absent
  | some key => exact indexes.add absent

end Connect

/-- Both maps get to know a socket together. -/
theorem Directory.Sound.connect (sound : directory.Sound) {userId : Option Uuid}
    {anonymousId : Uuid} (fresh : socketId ∉ directory.used)
    (drawn : anonymousId ∉ directory.drawn) (registered : ∀ id ∈ userId, id ∈ directory.users)
    : ({
        directory with
        gateway :=
          (Signaling.SignalingGateway.handleConnection directory.gateway socketId userId
            anonymousId).gateway
        drawn := anonymousId :: directory.drawn
        used := socketId :: directory.used
      } : Directory).Sound where
  indexes := by
    have unknown : directory.gateway.sockets.lookup socketId = none :=
      Option.not_isSome_iff_eq_none.mp (fun known => fresh (sound.used known))
    exact connect_indexes sound.indexes unknown userId anonymousId
  users userId member := List.mem_cons_of_mem _ (sound.users userId member)
  anonymous {other known} found := by
    rw [connect_lookup] at found
    split at found
    · cases found
      exact ⟨List.mem_cons_self, fun user => drawn (sound.users _ user)⟩
    · exact ⟨List.mem_cons_of_mem _ (sound.anonymous found).1, (sound.anonymous found).2⟩
  registered {other user} found := by
    rw [Gateway.userOf, connect_lookup] at found
    split at found
    · exact registered user found
    · exact sound.registered found
  distinct {one two known known'} found found' same := by
    -- the new id is not one that another socket has
    have other {socketId : SocketId} {old : SocketMeta}
        (there : directory.gateway.sockets.lookup socketId = some old)
        : old.anonymousId ≠ anonymousId := by
      rintro rfl
      exact drawn (sound.anonymous there).1
    rw [connect_lookup] at found found'
    split at found
    · next own =>
        cases found
        split at found'
        · next own' => rw [own, own']
        · exact absurd same.symm (other found')
    · split at found'
      · cases found'
        exact absurd same (other found)
      · exact sound.distinct found found' same
  connected {other} now := by
    rw [Gateway.knows, connect_lookup]
    split
    · rfl
    · next apart =>
        rcases (connect_connected _ _ _).mp now with own | before
        · exact absurd own apart
        · exact sound.connected before
  used {other} known := by
    rw [Gateway.knows, connect_lookup] at known
    split at known
    · next own => exact own ▸ List.mem_cons_self
    · exact List.mem_cons_of_mem _ (sound.used known)

/-- The transport disconnects a socket before its `handleDisconnect` starts. -/
theorem dropped_connected (gateway : Gateway)
    : ({ gateway with rooms := gateway.rooms.filter (fun entry => entry.2 ≠ socketId) }
          : Gateway).connected other
        = true
      ↔ other ≠ socketId ∧ gateway.connected other = true := by
  rw [Gateway.connected_iff, Gateway.connected_iff, List.mem_filter]
  simp [and_comm]

/-- What an arriving event keeps. -/
theorem Directory.Sound.arrival {handler : Handler} (sound : directory.Sound)
    (arrival : Arrival directory handler directory')
    : directory'.Sound := by
  cases arrival with
  | connect fresh drawn registered => exact sound.connect fresh drawn registered
  | disconnect _ _ =>
      exact {
        sound with
        connected := fun now => sound.connected ((dropped_connected _).mp now).2
      }
  | @register userId fresh =>
      exact {
        indexes := sound.indexes
        users := fun other member => by
          rcases List.mem_cons.mp member with rfl | old
          · exact List.mem_cons_self
          · exact List.mem_cons_of_mem _ (sound.users other old)
        anonymous := fun {socketId known} found => by
          refine ⟨List.mem_cons_of_mem _ (sound.anonymous found).1, fun member => ?_⟩
          rcases List.mem_cons.mp member with same | old
          · exact fresh (same ▸ (sound.anonymous found).1)
          · exact (sound.anonymous found).2 old
        registered := fun user => List.mem_cons_of_mem _ (sound.registered user)
        distinct := sound.distinct
        connected := sound.connected
        used := sound.used
      }
  | @assign target callId roomId =>
      refine sound.congr (fun socketId => ?_) ?_ ?_ rfl rfl rfl
      · rw [Gateway.lookup_updateMeta]
        split
        · rw [Option.map_map]
          rfl
        · rfl
      · rw [Gateway.updateMeta_eq]
      · rw [Gateway.updateMeta_eq]

/-- What a step of a handler keeps. -/
theorem Directory.Sound.turn {handler handler' : Handler} (sound : directory.Sound)
    (gone
      : ∀ socketId ∈ handler.departing, directory.gateway.connected socketId = false)
    (turn : Turn directory handler directory' handler')
    : directory'.Sound := by
  have carry {before after : Directory} (sound : before.Sound) (same : Same before after)
      : after.Sound :=
    sound.congr (fun _ => by rw [same.sockets]) same.userSockets same.rooms same.users same.drawn
      same.used
  cases turn with
  | waits same _ => exact carry sound same
  | forgets leaves same => exact carry (sound.forget (gone _ leaves)) same

/-- An arriving event connects nobody whose id was used before. -/
theorem Arrival.gone {handler : Handler} (arrival : Arrival directory handler directory')
    (known : socketId ∈ directory.used)
    (gone : directory.gateway.connected socketId = false)
    : socketId ∈ directory'.used ∧ directory'.gateway.connected socketId = false := by
  cases arrival with
  | connect fresh _ _ =>
      refine ⟨List.mem_cons_of_mem _ known, Bool.eq_false_iff.mpr (fun now => ?_)⟩
      rcases (connect_connected _ _ _).mp now with rfl | before
      · exact fresh known
      · exact Bool.false_ne_true (gone.symm.trans before)
  | disconnect _ _ =>
      refine ⟨known, Bool.eq_false_iff.mpr (fun now => ?_)⟩
      exact Bool.false_ne_true (gone.symm.trans ((dropped_connected _).mp now).2)
  | register _ => exact ⟨known, gone⟩
  | assign =>
      rw [Gateway.updateMeta_eq]
      exact ⟨known, gone⟩

/-- A step of a handler connects and disconnects nobody. -/
theorem Turn.connections {handler handler' : Handler}
    (turn : Turn directory handler directory' handler')
    : directory'.used = directory.used
      ∧ directory'.gateway.connected = directory.gateway.connected := by
  cases turn with
  | waits same _ =>
      refine ⟨same.used, ?_⟩
      unfold Gateway.connected
      rw [same.rooms]
  | @forgets socketId _ _ _ _ same =>
      refine ⟨same.used, ?_⟩
      unfold Gateway.connected
      rw [same.rooms]
      exact forgetSocket_connected directory.gateway

end

/-- The socket that a handler has not forgotten yet is not connected any more. -/
abbrev Departed (directory : Directory) (slot : Option Handler) : Prop :=
  ∀ handler ∈ slot, ∀ socketId ∈ handler.departing,
    socketId ∈ directory.used ∧ directory.gateway.connected socketId = false

/-- The maps are sound in every interleaving. -/
theorem presence_outline
    : presenceProgram.Outline Directory.Sound (fun directory _ slot => Departed directory slot)
    where
  start := by
    intro directory directory' index handler sound _ started
    have arrival := Handler.start_arrival started
    refine ⟨sound.arrival arrival, ?_, ?_⟩
    · rintro _ ⟨rfl⟩ socketId departing
      cases arrival with
      | connect _ _ _ => cases departing
      | register _ => cases departing
      | assign => cases departing
      | @disconnect leaver stage connected first =>
          have same : leaver = socketId := by
            cases stage <;> cases departing <;> rfl
          subst same
          refine ⟨sound.used (sound.connected connected), ?_⟩
          exact Bool.eq_false_iff.mpr (fun now => ((dropped_connected _).mp now).1 rfl)
    · intro _ slot _ departed other member socketId departing
      obtain ⟨known, gone⟩ := departed other member socketId departing
      exact arrival.gone known gone
  step := by
    intro directory directory' index _ handler handler' sound departed ran
    have turn := Handler.step_turn ran
    obtain ⟨used, connected⟩ := turn.connections
    refine ⟨sound.turn (fun socketId leaves => (departed handler rfl socketId leaves).2) turn,
      ?_, ?_⟩
    · rintro _ ⟨rfl⟩ socketId departing
      rw [used, connected]
      cases turn with
      | waits _ same => exact departed handler rfl socketId (same ▸ departing)
      | forgets _ _ => cases departing
    · intro _ slot _ others other member socketId departing
      rw [used, connected]
      exact others other member socketId departing

/-- A socket that is known is connected, or its `handleDisconnect` will forget it. -/
def Accounted (pool : Pool Directory Handler) : Prop :=
  ∀ socketId,
    pool.shared.gateway.knows socketId = true →
      pool.shared.gateway.connected socketId = true
      ∨ ∃ handler ∈ pool.threads, handler.departing = some socketId

/-- The handlers that still run after one of them has moved on. -/
theorem departing_set {threads : List Handler} {index : Nat} {handler handler' : Handler}
    {socketId : SocketId} (running : threads[index]? = some handler)
    (moves
      : handler.departing = some socketId → handler'.departing = some socketId)
    (before : ∃ other ∈ threads, other.departing = some socketId)
    : ∃ other ∈ threads.set index handler', other.departing = some socketId := by
  obtain ⟨other, member, departing⟩ := before
  obtain ⟨place, there⟩ := List.mem_iff_getElem?.mp member
  have bound := (List.getElem?_eq_some_iff.mp running).1
  by_cases same : index = place
  · subst same
    cases Option.some.inj (running.symm.trans there)
    exact ⟨handler', List.mem_of_getElem? (List.getElem?_set_self bound), moves departing⟩
  · have kept : (threads.set index handler')[place]? = some other :=
      (List.getElem?_set_ne same).trans there
    exact ⟨other, List.mem_of_getElem? kept, departing⟩

/-- An arriving event keeps the account: a socket that is disconnected is known, so that its
handler does not return at once. -/
theorem Accounted.arrival {pool next : Pool Directory Handler} {handler : Handler}
    (accounted : Accounted pool) (arrival : Arrival pool.shared handler next.shared)
    (threads : next.threads = pool.threads ++ [handler])
    : Accounted next := by
  intro socketId knows
  have stays
      (before : ∃ other ∈ pool.threads, other.departing = some socketId)
      : ∃ other ∈ next.threads, other.departing = some socketId := by
    obtain ⟨other, member, departing⟩ := before
    exact ⟨other, threads ▸ List.mem_append_left _ member, departing⟩
  generalize same : next.shared = after at arrival knows ⊢
  cases arrival with
  | @connect newcomer _ _ _ _ _ _ =>
      by_cases own : socketId = newcomer
      · exact Or.inl ((connect_connected _ _ _).mpr (Or.inl own))
      · have before : pool.shared.gateway.knows socketId = true := by
          rw [Gateway.knows, connect_lookup, if_neg own] at knows
          exact knows
        exact (accounted socketId before).imp
          (fun now => (connect_connected _ _ _).mpr (Or.inr now)) stays
  | @disconnect leaver stage connected first =>
      rcases accounted socketId knows with now | before
      · by_cases own : socketId = leaver
        · subst own
          refine Or.inr ⟨.disconnect socketId stage, ?_, ?_⟩
          · exact threads ▸ List.mem_append_right _ (List.mem_singleton_self _)
          · rw [first knows]
            rfl
        · exact Or.inl ((dropped_connected _).mpr ⟨own, now⟩)
      · exact Or.inr (stays before)
  | register _ => exact (accounted socketId knows).imp id stays
  | assign =>
      rw [Gateway.knows, Gateway.lookup_updateMeta] at knows
      have before : pool.shared.gateway.knows socketId = true := by
        split at knows
        · rwa [Option.isSome_map] at knows
        · exact knows
      rw [Gateway.updateMeta_eq]
      exact (accounted socketId before).imp id stays

/-- So does every step of a handler. -/
theorem Accounted.turn {pool next : Pool Directory Handler} {index : Nat}
    {handler handler' : Handler} (accounted : Accounted pool)
    (running : pool.threads[index]? = some handler)
    (turn : Turn pool.shared handler next.shared handler')
    (threads : next.threads = pool.threads.set index handler')
    : Accounted next := by
  intro socketId knows
  rw [turn.connections.2, threads]
  cases turn with
  | waits same departing =>
      have before : pool.shared.gateway.knows socketId = true := by
        rwa [Gateway.knows, same.sockets] at knows
      exact (accounted socketId before).imp id
        (departing_set running (fun leaves => departing.trans leaves))
  | @forgets leaver stage _ _ leaves same =>
      have known : (forgetSocket pool.shared.gateway leaver).knows socketId = true := by
        rwa [Gateway.knows, same.sockets] at knows
      obtain ⟨apart, before⟩ := (forgetSocket_knows _).mp known
      refine (accounted socketId before).imp id (departing_set running (fun own => ?_))
      exact absurd (Option.some.inj (own.symm.trans leaves)) apart

/-- All that every interleaving keeps. -/
theorem presence_sound {moves : List (Move Handler Unit)} {pool : Pool Directory Handler}
    (run : presenceMachine.Reaches moves pool)
    : Program.Holds Directory.Sound (fun directory _ slot => Departed directory slot) pool
      ∧ Accounted pool := by
  refine run.invariant
    (fun pool =>
      Program.Holds Directory.Sound (fun directory _ slot => Departed directory slot) pool
      ∧ Accounted pool)
    ⟨?_, ?_⟩ ?_
  · refine Program.Holds.init ?_ (fun _ _ member => by cases member)
    exact {
      indexes := Indexes.empty.congr (fun _ => rfl)
      users := fun _ member => by cases member
      anonymous := fun found => by cases found
      registered := fun found => by cases found
      distinct := fun found => by cases found
      connected := fun now => by cases now
      used := fun known => by cases known
    }
  · intro socketId knows
    cases knows
  · intro pool move next kept moved
    refine ⟨presence_outline.move kept.1 moved, ?_⟩
    cases move with
    | start handler =>
        obtain ⟨started, threads⟩ := presenceProgram.move_start_some moved
        exact kept.2.arrival (Handler.start_arrival started) threads
    | step index input =>
        obtain ⟨handler, handler', running, ran, threads⟩ :=
          presenceProgram.move_step_some moved
        exact kept.2.turn running (Handler.step_turn ran) threads

/-- Users are counted once, and every anonymous socket by itself. -/
theorem Directory.Sound.online {directory : Directory} (sound : directory.Sound)
    : SignalingGateway.countOnlineUsers directory.gateway
      = registeredOnline directory.gateway + anonymousOnline directory.gateway := by
  have found {entry} (member : entry ∈ directory.gateway.sockets.entries)
      : directory.gateway.sockets.lookup entry.1 = some entry.2 :=
    AList.mem_lookup_iff.mpr member
  have userOf {entry} (member : entry ∈ directory.gateway.sockets.entries)
      : directory.gateway.userOf entry.1 = entry.2.userId := by
    rw [Gateway.userOf, found member, Option.bind_some]
  have anonymousIds
      : ((directory.gateway.sockets.entries.filter (fun entry => entry.2.userId.isNone)).map
          (fun entry => entry.2.anonymousId)).Nodup := by
    refine List.Nodup.map_on ?_ (directory.gateway.sockets.nodupKeys.nodup.filter _)
    intro entry member entry' member' same
    have inAll := (List.mem_filter.mp member).1
    have inAll' := (List.mem_filter.mp member').1
    exact directory.gateway.sockets.nodupKeys.eq_of_fst_eq inAll inAll'
      (sound.distinct (found inAll) (found inAll') same)
  have split
      : (directory.gateway.sockets.entries.map (fun entry => entry.2.identity)).dedup.Perm
          ((directory.gateway.sockets.entries.filterMap (fun entry => entry.2.userId)).dedup
            ++ (directory.gateway.sockets.entries.filter
                  (fun entry => entry.2.userId.isNone)).map
                (fun entry => entry.2.anonymousId)) := by
    refine (List.perm_ext_iff_of_nodup (List.nodup_dedup _) ?_).mpr (fun id => ?_)
    · refine List.nodup_append.mpr ⟨List.nodup_dedup _, anonymousIds, ?_⟩
      intro user inUsers anonymousId inOthers same
      obtain ⟨entry, member, named⟩ := List.mem_filterMap.mp (List.mem_dedup.mp inUsers)
      obtain ⟨other, member', drawn⟩ := List.mem_map.mp inOthers
      refine (sound.anonymous (found (List.mem_filter.mp member').1)).2 ?_
      rw [drawn, ← same]
      exact sound.registered ((userOf member).trans named)
    · rw [List.mem_dedup, List.mem_append, List.mem_dedup, List.mem_map, List.mem_filterMap,
        List.mem_map]
      constructor
      · rintro ⟨entry, member, rfl⟩
        cases user : entry.2.userId with
        | none =>
            refine Or.inr ⟨entry, List.mem_filter.mpr ⟨member, by simp [user]⟩, ?_⟩
            simp [SocketMeta.identity, user]
        | some userId =>
            refine Or.inl ⟨entry, member, ?_⟩
            simp [SocketMeta.identity, user]
      · rintro (⟨entry, member, user⟩ | ⟨entry, member, rfl⟩)
        · exact ⟨entry, member, by simp [SocketMeta.identity, user]⟩
        · obtain ⟨member, anonymous⟩ := List.mem_filter.mp member
          have none : entry.2.userId = none := Option.isNone_iff_eq_none.mp anonymous
          exact ⟨entry, member, by simp [SocketMeta.identity, none]⟩
  have lengths := split.length_eq
  rw [List.length_append, List.length_map] at lengths
  exact lengths

/-- In every interleaving, `userSockets` indexes `sockets` by its users. -/
theorem presence_indexed {moves : List (Move Handler Unit)} {pool : Pool Directory Handler}
    (run : presenceMachine.Reaches moves pool)
    : Indexed pool := by
  obtain ⟨⟨sound, departed⟩, accounted⟩ := presence_sound run
  have tabs {key socketId}
      : socketId ∈ listed pool.shared.gateway.userSockets key
        ↔ ∃ user, key = .uuid user ∧ pool.shared.gateway.userOf socketId = some user := by
    rw [sound.indexes.mem_iff, tabOf, Option.map_eq_some_iff]
    exact ⟨fun ⟨user, own, named⟩ => ⟨user, named.symm, own⟩,
      fun ⟨user, named, own⟩ => ⟨user, own, named.symm⟩⟩
  refine ⟨tabs, sound.indexes.nonempty, ?_, ?_, sound.online⟩
  · intro finished socketId
    refine Bool.eq_iff_iff.mpr ⟨fun knows => ?_, sound.connected⟩
    refine (accounted socketId knows).resolve_right ?_
    rintro ⟨handler, member, departing⟩
    have done := finished handler member
    cases handler with
    | connect _ _ _ _ => cases departing
    | register _ => cases departing
    | assign _ _ _ => cases departing
    | disconnect leaver stage =>
        cases of_decide_eq_true done
        cases departing
  · intro user message
    refine ⟨listed pool.shared.gateway.userSockets (.uuid user), sound.indexes.nodup, ?_, rfl⟩
    intro socketId
    rw [tabs]
    simp

/-- A user opens two tabs, a visitor connects, and the first tab is closed. -/
def tabClosed : List (Move Handler Unit) :=
  [.start (.register 100), .start (.connect 1 (some 100) 200 (.queueDepth 1)),
    .start (.connect 2 (some 100) 201 (.queueDepth 1)), .step 1 (),
    .start (.connect 3 none 202 (.queueDepth 2)), .start (.disconnect 1 .dequeue),
    .step 4 (), .step 2 (), .step 3 ()]

/-- The state after a run. -/
def directoryAfter (moves : List (Move Handler Unit)) : Pool Directory Handler :=
  (presenceMachine.exec presenceMachine.init moves).getD ⟨.empty, []⟩

theorem presence_indexed_tabs
    : listed (directoryAfter tabClosed).shared.gateway.userSockets (.uuid 100) = [2]
      ∧ Indexed (directoryAfter tabClosed) := by
  have run : presenceMachine.Reaches tabClosed (directoryAfter tabClosed) := rfl
  exact ⟨by decide, presence_indexed run⟩

end NexusComms.Presence
