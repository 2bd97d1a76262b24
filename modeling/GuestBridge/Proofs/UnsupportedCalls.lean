import GuestBridge.Backend.Unsupported
import GuestBridge.Proofs.MappingRules
import GuestBridge.Proofs.TransferDestinations

/-!
Calls on the backend without facilities. A call that gets as far as the backend is refused, whatever
the bridge, the options and the objects, and leaves everything as it was. The refusal says that the
system is not supported, apart from that of a library: it counts as a failure of the library.
-/
namespace GuestBridge

/-- The calls for which a bridge needs its backend. -/
inductive FacilityCall where
  | granularity
  | map (call : MapCall)
  | transfer (source : ObjectId) (position count : Int64) (destination : ObjectId)
  | load (path : String)

namespace FacilityCall

open Session

variable {state : Type}

def perform : FacilityCall → Action (Session state) Fault Unit
  | granularity => (fun _ => ()) <$> Bridge.granularity
  | map call =>
    (fun _ => ()) <$> Bridge.map call.channel call.protection call.position call.length
  | transfer source position count destination =>
    (fun _ => ()) <$> Bridge.transfer source position count destination
  | load path => (fun _ => ()) <$> Bridge.loadLibrary path

/-- The calls that are not decided before the backend is asked: a mapping and a transfer have passed
all their rules. -/
inductive Needs (session : Session state) : FacilityCall → Prop where
  | granularity : Needs session .granularity
  | map {call : MapCall} {request : MapRequest} (decides : session.Decides call (.ok request)) :
      Needs session (.map call)
  | transfer {source destination : ObjectId} {position count : Int64} {stream : Option StreamId}
      {target : Destination} {file : StreamId} {handle : Posix.HandleId}
      {goal : Posix.System.TransferTarget} (found : Bridge.streamIn session source = .ok stream)
      (looked : Bridge.destinationIn session destination = .ok target)
      (rule : TransferRule session.world.streams target position count stream
        (.sent file handle goal)) :
      Needs session (.transfer source position count destination)
  | load (path : String) : Needs session (.load path)

variable {session : Session state}

theorem run_load (bare : session.bridge.backend = .unsupported) (path : String) :
    (Bridge.loadLibrary path).run session =
      (.error (.library (.platform
        ("cannot load " ++ path ++ ": Unsupported operation on platform."))), session) := by
  have text : "cannot load " ++ path ++ ": Unsupported operation on platform." =
      "cannot load " ++ path ++ ": " ++ Backend.unsupportedText := by
    simp only [String.append_assoc]
    rfl
  simp only [Bridge.loadLibrary, Action.run_bind, Action.run_get, bare, text]
  rfl

theorem run_serve (bare : session.bridge.backend = .unsupported) (request : MapRequest)
    (world : World state) :
    (session.bridge.channel.serve request).run world = (.error .platformUnsupported, world) := by
  simp only [Channel.serve, Channel.advise, Bridge.channel, bare, Action.run_bind]
  cases session.bridge.options.readsAhead <;> rfl

theorem run_carryOut (bare : session.bridge.backend = .unsupported) (position count : Int64)
    (file : StreamId) (handle : Posix.HandleId) (goal : Posix.System.TransferTarget)
    (world : World state) :
    (session.bridge.channel.carryOut position count (.sent file handle goal)).run world =
      (.error .platformUnsupported, world) := by
  have direct : session.bridge.channel.backend.seeksBeforeTransfer = false :=
    congrArg Backend.seeksBeforeTransfer bare
  have transfers : session.bridge.channel.backend.transfer = Backend.unsupported.transfer :=
    congrArg Backend.transfer bare
  rw [Channel.run_carryOut_of_direct direct, transfers]
  rfl

theorem run_onWorld_of_refused {result : Type} {action : Action (World state) Fault result}
    {fault : Fault} (refused : action.run session.world = (.error fault, session.world)) :
    (onWorld action).run session = (.error fault, session) := by
  rw [onWorld, Action.run_within]
  change ((action.run session.world).1, worldPart.set (action.run session.world).2 session) = _
  rw [refused]
  rfl

/-- What a call comes to on the backend without facilities. -/
def refusal : FacilityCall → Fault
  | load path =>
    .library (.platform ("cannot load " ++ path ++ ": Unsupported operation on platform."))
  | granularity | map _ | transfer .. => .platformUnsupported

theorem run_perform (bare : session.bridge.backend = .unsupported) {call : FacilityCall}
    (needs : call.Needs session) :
    (call.perform.run session).1 = .error call.refusal ∧
      session.Resolves (call.perform.run session).2 := by
  cases needs with
  | granularity =>
    simp only [perform, Action.run_map, Bridge.granularity, Action.run_bind, Action.run_get, bare]
    exact ⟨rfl, .refl session⟩
  | @map call request decides =>
    have located := session.resolves_located call.channel
    simp only [perform, Action.run_map, Bridge.run_map_of_decides decides, run_serve bare, filed,
      Except.map, ← located.world_eq]
    exact ⟨rfl, located⟩
  | @transfer source destination position count stream target file handle goal found looked rule =>
    obtain ⟨resolved, resolves, ran⟩ :=
      Bridge.run_transfer source position count destination session
    have refused := Bridge.run_onWorld_of_rule resolves rule
    have carried := run_onWorld_of_refused
      (run_carryOut bare position count file handle goal resolved.world)
    simp only [perform, Action.run_map, ran, found, looked, Action.run_bind, Action.run_liftM,
      refused.trans carried]
    exact ⟨rfl, resolves⟩
  | load path =>
    rw [perform, Action.run_map, run_load bare]
    exact ⟨rfl, .refl session⟩

/-- On the backend without facilities no call that gets as far as the backend passes for done: it is
refused, and neither the regions nor what is counted, stored or open has changed. Of mappings,
transfers and the granularity the caller is told that the system is not supported. Of a library it
is told only in the text: by its kind, and to the guest, the library could not be had. -/
theorem refused_without_facility (bare : session.bridge.backend = .unsupported)
    {call : FacilityCall} (needs : call.Needs session) :
    let ended := call.perform.run session
    (∃ fault, ended.1 = .error fault ∧
      ((∀ path, call ≠ .load path) → fault.kind = .platformUnsupported) ∧
      ∀ path, call = .load path →
        fault = .library (.platform
          ("cannot load " ++ path ++ ": Unsupported operation on platform.")) ∧
        fault.kind = .resourceState) ∧
      ended.2.bridge.regions = session.bridge.regions ∧ ended.2.world = session.world := by
  intro ended
  obtain ⟨refused, resolves⟩ := run_perform bare needs
  refine ⟨⟨call.refusal, refused, ?_, ?_⟩, ?_, resolves.world_eq⟩
  · intro other
    cases call with
    | load path => exact absurd rfl (other path)
    | granularity | map | transfer => rfl
  · rintro path rfl
    exact ⟨rfl, rfl⟩
  · rw [resolves.bridge_eq]

theorem refused_without_facility_mapping :
    let session := Session.onFile Backend.unsupported ()
    let call := map ⟨⟨2⟩, 0, 0, 77⟩
    session.bridge.backend = .unsupported ∧ call.Needs session ∧
      (∃ fault, (call.perform.run session).1 = .error fault ∧
        fault.kind = .platformUnsupported) ∧
      (call.perform.run session).2.world = session.world := by
  intro session call
  obtain ⟨mapping, decides⟩ := RegionCall.requests_onFile (Backend.unsupported : Backend Unit) ()
  cases mapping
  have needs : call.Needs session := .map decides
  obtain ⟨⟨fault, refused, kind, -⟩, -, world⟩ := refused_without_facility rfl needs
  exact ⟨rfl, needs, ⟨fault, refused, kind fun _ => nofun⟩, world⟩

/-- A library is refused as one that could not be had. -/
theorem misreported_library :
    ¬ ∀ call : FacilityCall, call.Needs (Session.onFile Backend.unsupported ()) →
      ∃ fault, (call.perform.run (Session.onFile Backend.unsupported ())).1 = .error fault ∧
        fault.kind = .platformUnsupported := by
  intro claimed
  obtain ⟨fault, refused, kind⟩ := claimed (.load "libc.so.6") (.load _)
  rw [(run_perform rfl (.load _)).1] at refused
  cases refused
  cases kind

end FacilityCall

end GuestBridge
