import GuestBridge.Backend.Recorded
import GuestBridge.Backend.Scripted
import GuestBridge.Proofs.MappingRules

/-!
What it does to a mapping that the backend is told beforehand what will be read. A call that comes
to no request is the same with and without. Where the backend takes the advice, the mapping is the
one that starts from what the advice leaves behind, and the same as without if it leaves nothing.
Where the backend does not take it, the mapping fails, and the backend is not asked for it.
-/
namespace GuestBridge

/-- The backend's own state and the system, without the calls so far. -/
def World.bare {state : Type} (world : World (Recording state)) : Machine state :=
  Backend.withoutCalls.get (machinePart.get world)

def World.withCalls {state : Type} (calls : List BackendCall) (world : World (Recording state)) :
    World (Recording state) :=
  { world with backends := { world.backends with calls } }

namespace Session

variable {state : Type} {session : Session state}

/-- The session with read-ahead turned on or off. -/
def advising (on : Bool) (session : Session state) : Session state :=
  { session with
    bridge :=
      { session.bridge with options := { session.bridge.options with readsAhead := on } } }

/-- The session whose backend has got this far, after these calls. -/
def leftBy (machine : Machine state) (calls : List BackendCall)
    (session : Session (Recording state)) : Session (Recording state) :=
  { session with
    world := World.machinePart.set ⟨⟨machine.own, calls⟩, machine.system⟩ session.world }

def withCalls (calls : List BackendCall) (session : Session (Recording state)) :
    Session (Recording state) :=
  { session with world := session.world.withCalls calls }

theorem Decides.advising {asked : MapCall} {verdict : Except Fault MapRequest}
    (decides : session.Decides asked verdict) (on : Bool) :
    (session.advising on).Decides asked verdict := by
  refine decides.of_same ?_ ?_ <;> rfl

theorem Decides.leftBy {session : Session (Recording state)} {asked : MapCall}
    {verdict : Except Fault MapRequest} (decides : session.Decides asked verdict)
    (machine : Machine state) (calls : List BackendCall) :
    (session.leftBy machine calls).Decides asked verdict := by
  refine decides.of_same ?_ ?_ <;> rfl

theorem filed_leftBy (machine : Machine state) (calls : List BackendCall)
    (session : Session (Recording state))
    (ended : Except Fault MappedRegion × World (Recording state)) :
    (session.leftBy machine calls).filed ended = session.filed ended := by
  obtain ⟨fault | region, world⟩ := ended <;> rfl

theorem filed_withCalls (session : Session (Recording state)) (outcome : Except Fault MappedRegion)
    (world : World (Recording state)) (calls : List BackendCall) :
    session.filed (outcome, world.withCalls calls) =
      ((session.filed (outcome, world)).1, (session.filed (outcome, world)).2.withCalls calls) := by
  cases outcome <;> rfl

theorem filed_advising (on : Bool) (session : Session state)
    (ended : Except Fault MappedRegion × World state) :
    (session.advising on).filed ended =
      ((session.filed ended).1, (session.filed ended).2.advising on) := by
  obtain ⟨fault | region, world⟩ := ended <;> rfl

theorem run_unmap_advising (on : Bool) (address length : UInt64) (session : Session state) :
    (Bridge.unmap address length).run (session.advising on) =
      (((Bridge.unmap address length).run session).1,
        ((Bridge.unmap address length).run session).2.advising on) := by
  cases found : session.bridge.regions.find? (fun known => known.address == address) with
  | none =>
    have advised : (session.advising on).bridge.regions.find?
        (fun known => known.address == address) = none := found
    rw [RegionCall.run_unmap_of_missing length found,
      RegionCall.run_unmap_of_missing length advised]
  | some region =>
    have advised : (session.advising on).bridge.regions.find?
        (fun known => known.address == address) = some region := found
    simp only [Bridge.unmap, Action.run_bind, Action.run_get, found, advised]
    rfl

end Session

namespace Backend

variable {state failure result : Type} {backend : Backend state}

theorem run_noting (call : Except failure result → BackendCall)
    (action : Action (Machine state) failure result) (machine : Machine (Recording state)) :
    (noting call action).run machine =
      let ran := action.run (withoutCalls.get machine)
      (ran.1, note (call ran.1) (withoutCalls.set ran.2 machine)) := rfl

theorem run_recorded_readAhead {request : MapRequest} {world : World (Recording state)}
    {outcome : Except SystemError Unit} {machine : Machine state}
    (ran : (backend.readAhead request.handle request.offset request.length).run world.bare =
      (outcome, machine)) :
    (backend.recorded.readAhead request.handle request.offset request.length).run
        (World.machinePart.get world) =
      (outcome, ⟨⟨machine.own, world.backends.calls ++
        [.readAhead request.handle request.offset request.length]⟩, machine.system⟩) := by
  rw [World.bare] at ran
  rw [recorded, run_noting, ran]
  rfl

end Backend

namespace Channel

variable {state : Type} {backend : Backend state} {channel : Channel (Recording state)}

/-- Mapping looks at no earlier call, and makes one. -/
theorem run_fulfil_withCalls (recorded : channel.backend = backend.recorded) (request : MapRequest)
    (world : World (Recording state)) :
    ∃ outcome, ∃ after : World (Recording state), ∃ made, ∀ calls,
      (channel.fulfil request).run (world.withCalls calls) =
        (outcome, after.withCalls (calls ++ [made])) := by
  have asked (calls : List BackendCall) := Backend.run_noting
    (fun outcome => .map request.handle request.mode request.offset request.length outcome.toOption)
    (backend.mapMemory request.handle request.mode request.offset request.length)
    (World.machinePart.get (world.withCalls calls))
  have bare (calls : List BackendCall) :
      Backend.withoutCalls.get (World.machinePart.get (world.withCalls calls)) = world.bare := rfl
  simp only [run_fulfil, recorded, Backend.recorded, asked, bare]
  rcases (backend.mapMemory request.handle request.mode request.offset request.length).run
    world.bare with ⟨cause | address, machine⟩
  · exact ⟨_, World.machinePart.set ⟨⟨machine.own, []⟩, machine.system⟩ world, _, fun calls => rfl⟩
  · exact ⟨_, { World.machinePart.set ⟨⟨machine.own, []⟩, machine.system⟩ world with
      counters := world.counters.add channel.pressure request.length }, _, fun calls => rfl⟩

end Channel

namespace RegionCall

open Session

variable {state : Type} {call : RegionCall}

/-- A call that comes to no request does not ask whether the bridge reads ahead. -/
theorem run_perform_advising_of_unasked {session : Session state}
    (unasked : ∀ request, ¬ call.Requests session request) (on : Bool) :
    call.perform.run (session.advising on) =
      ((call.perform.run session).1, (call.perform.run session).2.advising on) := by
  cases mapping : call.mapCall? with
  | some asked =>
    obtain ⟨verdict, decides⟩ := session.exists_decides asked
    cases verdict with
    | ok request => exact absurd (.intro mapping decides) (unasked request)
    | error fault =>
      rw [run_perform_of_refused mapping (decides.advising on),
        run_perform_of_refused mapping decides]
      rfl
  | none =>
    cases call with
    | map channel protection position length => cases mapping
    | unmap address length =>
      simp only [perform, Action.run_map, run_unmap_advising]
    | nativeMap arguments =>
      rcases run_nativeMap_cases arguments with ⟨-, fault, ran⟩ | ⟨asked, read, -⟩
      · rw [ran, ran]
      · rw [read] at mapping
        cases mapping
    | nativeUnmap arguments =>
      rcases run_nativeUnmap_cases arguments with ⟨-, fault, ran⟩ | ⟨address, length, -, ran⟩
      · rw [ran, ran]
      · rw [ran, ran]
        simp only [perform, Action.run_map, run_unmap_advising]

/-- What a mapping that is asked for comes to, apart from the lookup of its stream. -/
theorem run_perform_advising {session : Session state} {asked : MapCall} {request : MapRequest}
    (mapping : call.mapCall? = some asked) (decides : session.Decides asked (.ok request))
    (on : Bool) :
    call.perform.run (session.advising on) =
      let ended := (session.located asked.channel).filed
        (((session.advising on).bridge.channel.serve request).run session.world)
      (ended.1.map some, ended.2.advising on) := by
  rw [run_perform_of_asked mapping (decides.advising on)]
  exact congrArg (fun ended : Except Fault UInt64 × Session state => (ended.1.map some, ended.2))
    (filed_advising on (session.located asked.channel) _)

theorem run_perform_unadvised {session : Session state} {asked : MapCall} {request : MapRequest}
    (mapping : call.mapCall? = some asked) (decides : session.Decides asked (.ok request)) :
    call.perform.run (session.advising false) =
      let ended := (session.located asked.channel).filed
        ((session.bridge.channel.fulfil request).run session.world)
      (ended.1.map some, ended.2.advising false) := by
  have skipped : (session.advising false).bridge.channel.Ahead request.handle request.offset
      request.length session.world session.world := .skipped rfl
  rw [run_perform_advising mapping decides, Channel.run_serve_of_ahead skipped]
  rfl

section

variable {backend : Backend state} {session : Session (Recording state)} {asked : MapCall}
  {request : MapRequest} {machine : Machine state} {calls : List BackendCall}

theorem run_perform_of_unadvised (recorded : session.bridge.backend = backend.recorded)
    (mapping : call.mapCall? = some asked) (decides : session.Decides asked (.ok request))
    {cause : SystemError}
    (told : (backend.readAhead request.handle request.offset request.length).run
      session.world.bare = (.error cause, machine)) :
    call.perform.run (session.advising true) =
      (.error (.io "File mapping failed." (some cause)),
        ((session.located asked.channel).leftBy machine (session.world.backends.calls ++
          [.readAhead request.handle request.offset request.length])).advising true) := by
  have world : (session.located asked.channel).world = session.world :=
    (session.resolves_located asked.channel).world_eq
  have ran := Backend.run_recorded_readAhead told
  rw [← recorded] at ran
  have failed : ((session.advising true).bridge.channel.serve request).run session.world = _ :=
    Channel.run_serve_of_unadvised rfl ran
  rw [run_perform_advising mapping decides, failed]
  simp only [leftBy, world]
  rfl

theorem run_perform_of_advised (recorded : session.bridge.backend = backend.recorded)
    (mapping : call.mapCall? = some asked) (decides : session.Decides asked (.ok request))
    (told : (backend.readAhead request.handle request.offset request.length).run
      session.world.bare = (.ok (), machine)) :
    call.perform.run (session.advising true) =
      let ended := (session.located asked.channel).filed
        ((session.bridge.channel.fulfil request).run (session.leftBy machine
          (session.world.backends.calls ++
            [.readAhead request.handle request.offset request.length])).world)
      (ended.1.map some, ended.2.advising true) := by
  have ran := Backend.run_recorded_readAhead told
  rw [← recorded] at ran
  have advised : (session.advising true).bridge.channel.Ahead request.handle request.offset
      request.length session.world _ := .advised rfl ran
  rw [run_perform_advising mapping decides, Channel.run_serve_of_ahead advised]
  rfl

end

/-- Read-ahead is more than a hint: where the backend does not take it, nothing is mapped. Where it
is taken and leaves no trace, one call more is all the difference. -/
theorem advice_decides {state : Type} {backend : Backend state}
    {session : Session (Recording state)}
    (recorded : session.bridge.backend = backend.recorded) (call : RegionCall) :
    let advised := call.perform.run (session.advising true)
    let plain := call.perform.run (session.advising false)
    ((∀ request, ¬ call.Requests session request) →
      advised = (plain.1, plain.2.advising true)) ∧
    ∀ request, call.Requests session request →
      let told := (backend.readAhead request.handle request.offset request.length).run
        session.world.bare
      let calls := session.world.backends.calls ++
        [.readAhead request.handle request.offset request.length]
      (∀ cause machine, told = (.error cause, machine) →
        advised.1 = .error (.io "File mapping failed." (some cause)) ∧
        ∃ located, session.Resolves located ∧
          advised.2 = (located.leftBy machine calls).advising true) ∧
      (∀ machine, told = (.ok (), machine) →
        let later := call.perform.run ((session.leftBy machine calls).advising false)
        advised = (later.1, later.2.advising true)) ∧
      (told = (.ok (), session.world.bare) →
        advised.1 = plain.1 ∧ ∃ made,
          plain.2.world.backends.calls = session.world.backends.calls ++ [made] ∧
          advised.2 = (plain.2.withCalls (calls ++ [made])).advising true) := by
  intro advised plain
  refine ⟨fun unasked => ?_, ?_⟩
  · have on := run_perform_advising_of_unasked unasked true
    have off := run_perform_advising_of_unasked unasked false
    rw [show advised = _ from on, show plain = _ from off]
    rfl
  rintro request @⟨asked, mapping, decides⟩ told calls
  refine ⟨fun cause machine failed => ?_, fun machine taken => ?_, fun taken => ?_⟩
  · have ran := run_perform_of_unadvised recorded mapping decides failed
    exact ⟨congrArg Prod.fst ran, _, session.resolves_located asked.channel, congrArg Prod.snd ran⟩
  · have ran := run_perform_of_advised recorded mapping decides taken
    have later := run_perform_unadvised mapping (decides.leftBy machine calls)
    have located : (session.leftBy machine calls).located asked.channel =
        (session.located asked.channel).leftBy machine calls := rfl
    rw [located, filed_leftBy] at later
    dsimp only
    rw [show advised = _ from ran, later]
    rfl
  · have ran := run_perform_of_advised recorded mapping decides taken
    have without := run_perform_unadvised mapping decides
    have recorded : session.bridge.channel.backend = backend.recorded := recorded
    obtain ⟨outcome, after, made, fulfilled⟩ :=
      Channel.run_fulfil_withCalls recorded request session.world
    have now := fulfilled session.world.backends.calls
    have later := fulfilled calls
    rw [show (session.leftBy session.world.bare _).world = session.world.withCalls calls from rfl,
      later, filed_withCalls] at ran
    rw [show session.world = session.world.withCalls session.world.backends.calls from rfl,
      now, filed_withCalls] at without
    rw [show advised = _ from ran, show plain = _ from without]
    exact ⟨rfl, made, rfl, rfl⟩

/-- One channel on an open file, on a backend that follows a script and keeps a list of calls. -/
def following (script : Script) : Session (Recording Script) :=
  Session.onFile (Backend.scripted { name := "scripted" }).recorded { own := script }

theorem advice_decides_of_taken :
    let advised := (map ⟨2⟩ 0 0 77).perform.run ((following {}).advising true)
    let plain := (map ⟨2⟩ 0 0 77).perform.run ((following {}).advising false)
    advised.1 = plain.1 ∧ plain.1 = .ok (some 65536) ∧
      advised.2.world.backends.calls =
        .readAhead ⟨0⟩ 0 77 :: plain.2.world.backends.calls := by
  have asked : (map ⟨2⟩ 0 0 77).Requests (following {}) ⟨⟨0⟩, .readOnly, 0, 77⟩ :=
    requests_onFile ..
  obtain ⟨-, -, taken⟩ := (advice_decides rfl (map ⟨2⟩ 0 0 77)).2 _ asked
  obtain ⟨same, made, without, later⟩ := taken rfl
  refine ⟨same, by decide +kernel, ?_⟩
  rw [later, without]
  rfl

/-- The system has no such facility, and the mapping fails for it. -/
theorem advice_missing :
    let session := following { readAheadAnswers := [.error (.numbered 38)] }
    let advised := (map ⟨2⟩ 0 0 77).perform.run (session.advising true)
    let plain := (map ⟨2⟩ 0 0 77).perform.run (session.advising false)
    plain.1 = .ok (some 65536) ∧
      advised.1 = .error (.io "File mapping failed." (some (.numbered 38))) ∧
      advised.2.world.backends.calls = [.readAhead ⟨0⟩ 0 77] := by
  decide +kernel

end RegionCall

end GuestBridge
