import Mathlib.Tactic.Tauto
import MediasoupCpp.Lib.Prog
import MediasoupCpp.Registry.Store

/-!
# The operations of the room registry

Every operation of the registry is a program over atomic actions: a Redis command, an access to
the node's cache, which has a mutex of its own, or taking and releasing the mutex of the command
connection.  Run to the end, such a program is one undisturbed call; the actions of several
programs interleave when threads and nodes run concurrently.

Main results: `call_claimRoom_cached`, `call_claimRoom_kept`, `call_claimRoom_redirected`.

Source: `src/RoomRegistry.cpp`, `src/RoomRegistrySync.cpp`, `src/RoomRegistryConnection.cpp`,
`src/RoomRegistryPubSub.cpp`.
-/

namespace MediasoupCpp

/-! ### Actions -/

inductive RegistryAct
  -- the mutex and the state of the command connection
  | lock
  | unlock
  | ensureConnected
  | handleDisconnect
  | connected
  -- the cache
  | roomAddress (roomId : String)
  | nodeAddressForId (nodeId : String)
  | cachedNodes
  | otherNodeIds
  | upsertNode (nodeId : String) (info : NodeInfo)
  | upsertRoom (roomId address : String)
  | eraseRoom (roomId : String)
  | eraseNodeAndOwnedRooms (nodeId : String)
  | mergeNodes (newNodes : List (String × NodeInfo))
  | replaceAll (newNodes : List (String × NodeInfo)) (newRooms : List (String × String))
  -- Redis
  | evalClaim (roomId : String)
  | getRoom (roomId : String)
  | getNode (nodeId : String)
  | delRoom (roomId : String)
  | expireRoom (roomId : String)
  | expireNode (nodeId : String)
  | setNode (nodeId : String) (info : NodeInfo)
  | existsNode (nodeId : String)
  | scanNodes
  | scanRooms
  | mgetNodes (nodeIds : List String)
  | mgetRooms (roomIds : List String)
  | publish (message : PubSubMessage)
  deriving DecidableEq

@[reducible] def RegistryAct.Ans : RegistryAct → Type
  | ensureConnected | connected => Bool
  | roomAddress _ | nodeAddressForId _ => Option String
  | cachedNodes => List (String × NodeInfo)
  | otherNodeIds => List String
  | evalClaim _ => Option ScriptReply
  | getRoom _ => Option (Option String)
  | getNode _ => Option (Option NodeInfo)
  | delRoom _ | setNode _ _ | publish _ => Option Unit
  | expireRoom _ | expireNode _ | existsNode _ => Option Bool
  | scanNodes | scanRooms => Option (List String)
  | mgetNodes _ => Option (List (Option NodeInfo))
  | mgetRooms _ => Option (List (Option String))
  | lock | unlock | handleDisconnect | upsertNode _ _ | upsertRoom _ _ | eraseRoom _
  | eraseNodeAndOwnedRooms _ | mergeNodes _ | replaceAll _ _ => Unit

structure RegistryShared where
  redis : Redis := {}
  reachable : Bool := true
  /-- The pub/sub messages on their way to each node. -/
  inbox : String → List PubSubMessage := fun _ => []

structure RegistryLocal where
  cache : CacheView := {}
  connected : Bool := true

def RegistryShared.publish (w : RegistryShared) (message : PubSubMessage) : RegistryShared :=
  { w with inbox := fun nodeId => w.inbox nodeId ++ [message] }

theorem mem_inbox_publish {w : RegistryShared} {r address address' i : String}
    (h : .room r address ∈ (w.publish (.room r address')).inbox i) :
    .room r address ∈ w.inbox i ∨ address = address' := by
  simpa only [RegistryShared.publish, List.mem_append, List.mem_singleton,
    PubSubMessage.room.injEq, true_and] using h

def dictOf {υ : Type} (l : List (String × υ)) : Dict String υ :=
  l.foldl (fun d e => d.insert e.1 e.2) ∅

def command {α : Type} (w : RegistryShared) (n : RegistryLocal)
    (f : Redis → α × Redis) : Option α × RegistryShared × RegistryLocal :=
  if n.connected && w.reachable then
    (some (f w.redis).1, { w with redis := (f w.redis).2 }, n)
  else (none, w, { n with connected := false })

theorem command_inv {α : Type} {Q : RegistryShared × RegistryLocal → Prop} {w : RegistryShared}
    {n : RegistryLocal} (f : Redis → α × Redis) (hrep : Q ({ w with redis := (f w.redis).2 }, n))
    (hlost : Q (w, { n with connected := false })) : Q (command w n f).2 := by
  unfold command
  split
  · exact hrep
  · exact hlost

/-- What an action does on the node with id `nodeId`.  The mutex has no effect
inside one undisturbed call. -/
def exec (nodeId : String) :
    (a : RegistryAct) → RegistryShared × RegistryLocal → a.Ans × RegistryShared × RegistryLocal
  | .lock, (w, n) => ((), w, n)
  | .unlock, (w, n) => ((), w, n)
  | .ensureConnected, (w, n) =>
    (n.connected || w.reachable, w, { n with connected := n.connected || w.reachable })
  | .handleDisconnect, (w, n) => ((), w, { n with connected := false })
  | .connected, (w, n) => (n.connected, w, n)
  | .roomAddress roomId, (w, n) => (n.cache.roomAddress roomId, w, n)
  | .nodeAddressForId nodeId, (w, n) => (n.cache.nodeAddressForId nodeId, w, n)
  | .cachedNodes, (w, n) => (n.cache.nodes.toPairs, w, n)
  | .otherNodeIds, (w, n) => (n.cache.otherNodeIds nodeId, w, n)
  | .upsertNode nodeId info, (w, n) => ((), w, { n with cache := n.cache.upsertNode nodeId info })
  | .upsertRoom roomId address, (w, n) =>
    ((), w, { n with cache := n.cache.upsertRoom roomId address })
  | .eraseRoom roomId, (w, n) => ((), w, { n with cache := n.cache.eraseRoom roomId })
  | .eraseNodeAndOwnedRooms nodeId, (w, n) =>
    ((), w, { n with cache := n.cache.eraseNodeAndOwnedRooms nodeId })
  | .mergeNodes newNodes, (w, n) => ((), w, { n with cache := n.cache.mergeNodes newNodes })
  | .replaceAll newNodes newRooms, (w, n) =>
    ((), w, { n with cache := ⟨dictOf newNodes, dictOf newRooms⟩ })
  | .evalClaim roomId, (w, n) => command w n fun db => db.evalClaim nodeId roomId
  | .getRoom roomId, (w, n) => command w n fun db => (db.rooms.lookup roomId, db)
  | .getNode nodeId, (w, n) => command w n fun db => (db.nodes.lookup nodeId, db)
  | .delRoom roomId, (w, n) => command w n fun db => ((), db.delRoom roomId)
  | .expireRoom roomId, (w, n) => command w n fun db => ((db.rooms.lookup roomId).isSome, db)
  | .expireNode nodeId, (w, n) => command w n fun db => ((db.nodes.lookup nodeId).isSome, db)
  | .setNode nodeId info, (w, n) => command w n fun db => ((), db.setNode nodeId info)
  | .existsNode nodeId, (w, n) => command w n fun db => ((db.nodes.lookup nodeId).isSome, db)
  | .scanNodes, (w, n) => command w n fun db => (db.nodes.keys, db)
  | .scanRooms, (w, n) => command w n fun db => (db.rooms.keys, db)
  | .mgetNodes nodeIds, (w, n) => command w n fun db => (nodeIds.map db.nodes.lookup, db)
  | .mgetRooms roomIds, (w, n) => command w n fun db => (roomIds.map db.rooms.lookup, db)
  | .publish message, (w, n) =>
    if n.connected && w.reachable then (some (), w.publish message, n)
    else (none, w, { n with connected := false })

abbrev RegistryProg : Type → Type := Prog RegistryAct RegistryAct.Ans

abbrev perform (a : RegistryAct) : RegistryProg a.Ans := Prog.perform a

abbrev call {α : Type} (nodeId : String) (p : RegistryProg α) :
    RegistryShared × RegistryLocal → α × RegistryShared × RegistryLocal :=
  p.runWith (exec nodeId)

/-! ### The operations -/

def withLock {α : Type} (p : RegistryProg α) : RegistryProg α := do
  perform .lock
  let x ← p
  perform .unlock
  return x

theorem withLock_eq {α : Type} (p : RegistryProg α) :
    withLock p = .act .lock fun _ => p.bind fun x => .act .unlock fun _ => .ret x := rfl

def publishUpdate (message : PubSubMessage) : RegistryProg Unit := do
  if ← perform .connected then
    match ← perform (.publish message) with
    | some _ => return ()
    | none => perform .handleDisconnect
  else return ()

def publishRoomUpdate (roomId ownerAddr : String) : RegistryProg Unit :=
  publishUpdate (.room roomId ownerAddr)

def publishNodeUpdate (nodeId : String) (info : NodeInfo) : RegistryProg Unit :=
  publishUpdate (.node nodeId (some info))

section Operations

variable (cfg : RegistryConfig) (roomId : String)

def refreshCachedRemoteRoomAddressUnlocked (cachedAddress : String) :
    RegistryProg (Bool × String) :=
  if cachedAddress = "" ∨ cachedAddress = cfg.nodeAddress then
    return (!(cachedAddress == ""), cachedAddress)
  else do
    if ← perform .ensureConnected then
      match ← perform (.getRoom roomId) with
      | some (some owner) =>
        match ← perform (.getNode owner) with
        | some (some info) =>
          if info.address = "" then return (false, "")
          else return (info.address == cachedAddress, info.address)
        | _ => return (false, "")
      | _ => return (false, "")
    else return (false, "")

def keepRoom : RegistryProg (Except String String) := do
  perform (.upsertRoom roomId cfg.nodeAddress)
  publishRoomUpdate roomId cfg.nodeAddress
  return .ok ""

variable (clientIp : String)

def claimRoomEval : RegistryProg (Except String String) := do
  match ← perform (.evalClaim roomId) with
  | none =>
    perform .handleDisconnect
    return .error "redis unavailable during claimRoom eval"
  | some .granted =>
    let nodes ← perform .cachedNodes
    let best := findBestNodeCached cfg nodes clientIp
    if best ≠ "" ∧ best ≠ cfg.nodeAddress then
      let _ ← perform (.delRoom roomId)
      return .ok best
    else keepRoom cfg roomId
  | some .self => keepRoom cfg roomId
  | some (.taken _) => keepRoom cfg roomId
  | some (.addr info) =>
    if info.address ≠ "" then
      perform (.upsertRoom roomId info.address)
      return .ok info.address
    else return .error "owner node value unparseable during claimRoom"

def redirectTo (address : String) : Except String String :=
  .ok (if address = cfg.nodeAddress then "" else address)

def claimRoomLocked : RegistryProg (Except String String) := do
  if ← perform .ensureConnected then
    match ← perform (.roomAddress roomId) with
    | none => claimRoomEval cfg roomId clientIp
    | some cachedAddress =>
      if cachedAddress = cfg.nodeAddress then return .ok ""
      else
        let (unchanged, refreshedAddress) ←
          refreshCachedRemoteRoomAddressUnlocked cfg roomId cachedAddress
        if unchanged then return redirectTo cfg refreshedAddress
        else if refreshedAddress ≠ "" then
          perform (.upsertRoom roomId refreshedAddress)
          return redirectTo cfg refreshedAddress
        else
          perform (.eraseRoom roomId)
          claimRoomEval cfg roomId clientIp
  else return .error "redis unavailable during claimRoom"

/-- Claim a room for this node.  The answer is empty if the room is local, and the
address of the node to go to otherwise. -/
def claimRoom : RegistryProg (Except String String) :=
  withLock (claimRoomLocked cfg roomId clientIp)

def refreshRoom : RegistryProg Unit :=
  withLock do
    if ← perform .ensureConnected then
      match ← perform (.expireRoom roomId) with
      | some _ => return ()
      | none => perform .handleDisconnect
    else return ()

/-- Give up a room.  The cache is changed before the mutex is taken, and the key
is deleted whatever it holds. -/
def unregisterRoom : RegistryProg Unit := do
  perform (.eraseRoom roomId)
  withLock do
    if ← perform .ensureConnected then
      match ← perform (.delRoom roomId) with
      | some _ => publishRoomUpdate roomId ""
      | none =>
        perform .handleDisconnect
        publishRoomUpdate roomId ""
    else return ()

def buildNodeValue (rooms maxRooms : ℕ) : NodeInfo :=
  { address := cfg.nodeAddress, rooms := rooms, maxRooms := maxRooms,
    lat := cfg.nodeLat, lng := cfg.nodeLng, isp := cfg.nodeIsp, country := cfg.nodeCountry }

def registerNode : RegistryProg Unit :=
  withLock do
    if ← perform .ensureConnected then
      match ← perform (.expireNode cfg.nodeId) with
      | some true => return ()
      | some false =>
        match ← perform (.setNode cfg.nodeId (buildNodeValue cfg 0 0)) with
        | some _ =>
          perform (.upsertNode cfg.nodeId (buildNodeValue cfg 0 0))
          publishNodeUpdate cfg.nodeId (buildNodeValue cfg 0 0)
        | none => perform .handleDisconnect
      | none => perform .handleDisconnect
    else return ()

def findDeadNodes : List String → RegistryProg (Option (List String))
  | [] => return some []
  | nodeId :: nodeIds => do
    match ← perform (.existsNode nodeId) with
    | none =>
      perform .handleDisconnect
      return none
    | some found =>
      match ← findDeadNodes nodeIds with
      | none => return none
      | some dead => return some (if found then dead else nodeId :: dead)

def eraseNodes : List String → RegistryProg Unit
  | [] => return ()
  | nodeId :: nodeIds => do
    perform (.eraseNodeAndOwnedRooms nodeId)
    eraseNodes nodeIds

def evictDeadNodes : RegistryProg Unit := do
  let nodeIds ← perform .otherNodeIds
  if nodeIds.isEmpty then return ()
  else
    let dead ← withLock do
      if ← perform .ensureConnected then findDeadNodes nodeIds else return none
    eraseNodes (dead.getD [])

def heartbeat : RegistryProg Unit := do
  registerNode cfg
  evictDeadNodes

def updateLoad (rooms maxRooms : ℕ) : RegistryProg Unit :=
  withLock do
    if ← perform .ensureConnected then
      match ← perform (.setNode cfg.nodeId (buildNodeValue cfg rooms maxRooms)) with
      | some _ =>
        perform (.upsertNode cfg.nodeId (buildNodeValue cfg rooms maxRooms))
        publishNodeUpdate cfg.nodeId (buildNodeValue cfg rooms maxRooms)
      | none =>
        perform .handleDisconnect
        perform (.upsertNode cfg.nodeId (buildNodeValue cfg rooms maxRooms))
        publishNodeUpdate cfg.nodeId (buildNodeValue cfg rooms maxRooms)
    else return ()

def lockedCommand {α : Type} (p : RegistryProg (Option α)) : RegistryProg (Option α) :=
  withLock do
    if ← perform .ensureConnected then
      match ← p with
      | some x => return some x
      | none =>
        perform .handleDisconnect
        return none
    else return none

def fetchEntries {υ : Type} (scan : RegistryProg (Option (List String)))
    (mget : List String → RegistryProg (Option (List (Option υ)))) :
    RegistryProg (Option (List (String × υ))) := do
  match ← lockedCommand scan with
  | none => return none
  | some [] => return some []
  | some (id :: ids) =>
    match ← lockedCommand (mget (id :: ids)) with
    | none => return none
    | some values =>
      return some (((id :: ids).zip values).filterMap fun (id, value) =>
        value.map fun v => (id, v))

def fetchNodes : RegistryProg (Option (List (String × NodeInfo))) :=
  fetchEntries (perform .scanNodes) fun nodeIds => perform (.mgetNodes nodeIds)

def fetchRooms : RegistryProg (Option (List (String × String))) :=
  fetchEntries (perform .scanRooms) fun roomIds => perform (.mgetRooms roomIds)

def syncNodesSnapshot : RegistryProg Unit := do
  if ← withLock (perform .ensureConnected) then
    match ← fetchNodes with
    | none => return ()
    | some nodes => perform (.mergeNodes nodes)
  else return ()

def syncAllSnapshot : RegistryProg Unit := do
  if ← withLock (perform .ensureConnected) then
    match ← fetchNodes with
    | none => return ()
    | some nodes =>
      match ← fetchRooms with
      | none => return ()
      | some owners =>
        -- rooms of nodes without a key are left out
        perform (.replaceAll nodes (owners.filterMap fun (roomId, owner) =>
          ((dictOf nodes).lookup owner).map fun info => (roomId, info.address)))
  else return ()

def hasRemoteNodeCached (nodes : List (String × NodeInfo)) : Bool :=
  nodes.any fun (nodeId, info) => !(nodeId == cfg.nodeId) && !(info.address == "")

def resolveOwner : RegistryProg (Option String) :=
  withLock do
    if ← perform .ensureConnected then
      match ← perform (.getRoom roomId) with
      | some (some ownerNodeId) =>
        match ← perform (.nodeAddressForId ownerNodeId) with
        | some addr =>
          perform (.upsertRoom roomId addr)
          return some addr
        | none =>
          match ← perform (.getNode ownerNodeId) with
          | some (some info) =>
            if info.address ≠ "" then
              perform (.upsertNode ownerNodeId info)
              perform (.upsertRoom roomId info.address)
              return some info.address
            else return none
          | _ => return none
      | _ => return none
    else return none

def shouldRefreshNodes (best : String) : RegistryProg Bool :=
  if best = "" then return true
  else if best = cfg.nodeAddress then do
    let nodes ← perform .cachedNodes
    return !hasRemoteNodeCached cfg nodes
  else return false

def resolveBest : RegistryProg (String × Bool) := do
  let nodes ← perform .cachedNodes
  let best := findBestNodeCached cfg nodes clientIp
  if ← shouldRefreshNodes cfg best then
    syncNodesSnapshot
    let nodes ← perform .cachedNodes
    return (findBestNodeCached cfg nodes clientIp, true)
  else return (best, true)

def resolveRoom : RegistryProg (Except String (String × Bool)) := do
  if ← withLock (perform .ensureConnected) then
    match ← perform (.roomAddress roomId) with
    | some cachedAddress => return .ok (cachedAddress, false)
    | none =>
      match ← resolveOwner roomId with
      | some addr => return .ok (addr, false)
      | none =>
        let best ← resolveBest cfg clientIp
        return .ok best
  else return .error "redis unavailable during resolveRoom"

end Operations

/-! ### One undisturbed claim

What a whole call of `claimRoom` does when the cache has the node's own address or
none, and the claim script finds no other node in the way. -/

section ClaimCall

variable {cfg : RegistryConfig} {i r clientIp : String} {w : RegistryShared} {n : RegistryLocal}

theorem call_claimRoom_cached (hreach : w.reachable)
    (hcach : n.cache.roomAddress r = some cfg.nodeAddress) :
    call i (claimRoom cfg r clientIp) (w, n) = (.ok "", w, { n with connected := true }) := by
  simp [call, claimRoom, withLock, claimRoomLocked, perform, exec, hreach, hcach]

theorem call_claimRoom_kept (hreach : w.reachable) (hcach : n.cache.roomAddress r = none)
    (hrep : (w.redis.evalClaim i r).1 = .self ∨ (w.redis.evalClaim i r).1 = .granted ∧
        (findBestNodeCached cfg n.cache.nodes.toPairs clientIp = "" ∨
          findBestNodeCached cfg n.cache.nodes.toPairs clientIp = cfg.nodeAddress)) :
    call i (claimRoom cfg r clientIp) (w, n) =
      (.ok "", RegistryShared.publish { w with redis := (w.redis.evalClaim i r).2 }
          (.room r cfg.nodeAddress),
        { cache := n.cache.upsertRoom r cfg.nodeAddress, connected := true }) := by
  rcases hrep with hself | ⟨hgrant, _⟩
  · simp [call, claimRoom, withLock, claimRoomLocked, claimRoomEval, keepRoom, publishRoomUpdate,
      publishUpdate, perform, exec, command, hreach, hcach, hself]
  have hkeep : ¬(findBestNodeCached cfg n.cache.nodes.toPairs clientIp ≠ "" ∧
      findBestNodeCached cfg n.cache.nodes.toPairs clientIp ≠ cfg.nodeAddress) := by tauto
  simp [call, claimRoom, withLock, claimRoomLocked, claimRoomEval, keepRoom, publishRoomUpdate,
    publishUpdate, perform, exec, command, hreach, hcach, hgrant, hkeep]

theorem call_claimRoom_redirected (hreach : w.reachable)
    (hcach : n.cache.roomAddress r = none) (hgrant : (w.redis.evalClaim i r).1 = .granted)
    (hbest : findBestNodeCached cfg n.cache.nodes.toPairs clientIp ≠ "" ∧
      findBestNodeCached cfg n.cache.nodes.toPairs clientIp ≠ cfg.nodeAddress) :
    call i (claimRoom cfg r clientIp) (w, n) =
      (.ok (findBestNodeCached cfg n.cache.nodes.toPairs clientIp),
        { w with redis := (w.redis.evalClaim i r).2.delRoom r },
        { n with connected := true }) := by
  simp [call, claimRoom, withLock, claimRoomLocked, claimRoomEval, perform, exec, command, hreach,
    hcach, hgrant, hbest]

end ClaimCall

end MediasoupCpp
