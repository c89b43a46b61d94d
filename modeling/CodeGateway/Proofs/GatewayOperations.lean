import CodeGateway.Gateway.Basic
import CodeGateway.Proofs.ServerOperations
import CodeGateway.Proofs.ServiceEnd

namespace CodeGateway

open Agent

def Finished.works : Finished → List Service.Work
  | ⟨ticket, .query query, outcome⟩ => [.retire ticket (query.result outcome), .respond ticket]
  | _ => []

theorem Gateway.runFrom_conclude {serving : Serving} (fresh : serving.retired = [])
    (finished : List Finished) :
    serving.runFrom ((finished.flatMap Finished.works).map Service.Work.event) =
      { serving with
        server := (conclude serving.server finished).1
        queued := serving.queued ++ (conclude serving.server finished).2 } := by
  induction finished generalizing serving with
  | nil => simp [conclude, Serving.runFrom]
  | cons done finished ih =>
    obtain ⟨ticket, goal, outcome⟩ := done
    rw [List.flatMap_cons, List.map_append, Serving.runFrom_append]
    cases goal with
    | query query =>
      have first : serving.runFrom
          ((Finished.works ⟨ticket, .query query, outcome⟩).map Service.Work.event) = _ :=
        Serving.runFrom_finish (by simp [fresh]) (query.result outcome)
      rw [first, ih (by simpa using fresh)]
      simp [conclude]
    | value => exact ih fresh
    | handshake => exact ih fresh
    | farewell => exact ih fresh

namespace Agent.Service

theorem runFrom_reads {service : Service} (reading : service.phase = .reading)
    {texts : List (List Char)} {invalid : Option Utf8.Invalid}
    (decoded : decodeLines (lines service.hungUp service.unread).1 = (texts, invalid)) :
    ∃ count,
      (service.runFrom (List.replicate count .read)).serving =
        service.serving.runFrom (texts.map .line) ∧
      (service.runFrom (List.replicate count .read)).phase =
        invalid.elim (if service.hungUp then .draining else .reading)
          (fun invalid => .ended (.failed (.notText invalid))) ∧
      (service.runFrom (List.replicate count .read)).hungUp = service.hungUp ∧
      (invalid = none → (service.runFrom (List.replicate count .read)).unread =
        (lines service.hungUp service.unread).2) := by
  induction size : service.unread.length using Nat.strongRecOn generalizing service texts with
  | ind size ih =>
    subst size
    have read : service.step .read = service.read := by simp only [step, reading]
    have once : service.runFrom (List.replicate 1 .read) = service.read := read
    cases next : Frame.nextLine service.hungUp service.unread with
    | none =>
      rw [lines_of_nextLine_none next] at decoded ⊢
      cases decoded
      refine ⟨1, ?_⟩
      rw [once]
      simp only [Service.read, next]
      cases hungUp : service.hungUp with
      | true => exact ⟨rfl, rfl, rfl, fun _ => rfl⟩
      | false => exact ⟨rfl, reading, hungUp, fun _ => rfl⟩
    | some parts =>
      obtain ⟨line, rest⟩ := parts
      obtain ⟨whole, takes⟩ := Frame.nextLine_eq_some_iff.mp next
      have fewer : rest.length < service.unread.length := by
        have some' := List.length_pos_of_ne_nil takes.ne_nil
        rw [whole, List.length_append]
        omega
      cases first : Utf8.decode (withoutEnd line) with
      | error wrong =>
        rw [decodeLines_of_invalid next first] at decoded
        cases decoded
        refine ⟨1, ?_⟩
        rw [once]
        simp [Service.read, next, takeLine, first, Serving.runFrom]
      | ok text =>
        have taken : service.step .read =
            { service with unread := rest, serving := service.serving.takeLine text } := by
          simp only [read, Service.read, next, takeLine, first]
        rw [decodeLines_of_line next first] at decoded
        cases decoded
        have still : (service.step .read).phase = .reading := by
          rw [taken]
          exact reading
        obtain ⟨count, serving, phase, hungUp, unread⟩ := ih rest.length fewer still
          (by rw [taken]) (by rw [taken])
        rw [taken] at serving phase hungUp unread
        refine ⟨count + 1, ?_⟩
        have steps : service.runFrom (List.replicate (count + 1) .read) =
            (service.step .read).runFrom (List.replicate count .read) := rfl
        rw [steps, taken, lines_of_nextLine next]
        exact ⟨serving, phase, hungUp, unread⟩

theorem runFrom_drops {service : Service} {fault : ReadFault}
    (failed : service.phase = .ended (.failed fault)) (tickets : List Nat) :
    ∃ server, server.running =
        service.serving.server.running.filter (fun call => !tickets.contains call.ticket) ∧
      service.runFrom (tickets.map .drop) =
        { service with serving := { service.serving with server } } := by
  induction tickets generalizing service with
  | nil => exact ⟨service.serving.server, by simp, rfl⟩
  | cons ticket tickets ih =>
    have first : service.step (.drop ticket) = { service with serving :=
        { service.serving with server := (service.serving.server.retire ticket).1 } } := by
      simp only [step, failed]
    have fewer : (service.serving.server.retire ticket).1.running =
        service.serving.server.running.filter fun call => call.ticket != ticket := by
      unfold Server.retire
      split
      · rename_i missing
        refine (List.filter_eq_self.mpr fun call among => ?_).symm
        simpa using List.find?_eq_none.mp missing call among
      · rfl
    have failed' : (service.step (.drop ticket)).phase = .ended (.failed fault) := by
      rw [first]
      exact failed
    obtain ⟨server, running, dropped⟩ := ih failed'
    refine ⟨server, ?_, ?_⟩
    · rw [running, first, fewer, List.filter_filter]
      congr 1
      funext call
      by_cases same : call.ticket = ticket <;> simp [same]
    · have steps : service.runFrom ((ticket :: tickets).map .drop) =
          (service.step (.drop ticket)).runFrom (tickets.map .drop) := rfl
      rw [steps, dropped, first]

def Event.isInput : Event → Bool
  | .arrive _ | .hangUp | .fail _ => true
  | _ => false

/-- By itself a service comes to another state, and gives these responses on the way. -/
structure Gives (service after : Service) (responses : List Response) : Prop where
  own : ∃ own, own.filter Event.isInput = [] ∧ service.runFrom own = after
  queued : after.serving.queued = service.serving.queued ++ responses
  written : after.serving.written = service.serving.written

theorem Gives.refl (service : Service) : Gives service service [] :=
  ⟨⟨[], rfl, rfl⟩, (List.append_nil _).symm, rfl⟩

theorem Gives.trans {service middle after : Service} {responses more : List Response}
    (first : Gives service middle responses) (second : Gives middle after more) :
    Gives service after (responses ++ more) := by
  obtain ⟨⟨own, isOwn, rfl⟩, queued, written⟩ := first
  obtain ⟨⟨own', isOwn', rfl⟩, queued', written'⟩ := second
  refine ⟨⟨own ++ own', ?_, runFrom_append service own own'⟩, ?_, written'.trans written⟩
  · rw [List.filter_append, isOwn, isOwn', List.append_nil]
  · rw [queued', queued, List.append_assoc]

theorem gives_works {service : Service} {works : List Work} {server : Server}
    {responses : List Response}
    (worked : service.serving.runFrom (works.map Work.event) =
      { service.serving with server, queued := service.serving.queued ++ responses }) :
    Gives service { service with serving :=
      { service.serving with server, queued := service.serving.queued ++ responses } }
      responses := by
  refine ⟨⟨works.map .work, by simp [Event.isInput], ?_⟩, rfl, rfl⟩
  rw [runFrom_work, worked]

theorem gives_reads {service : Service} (reading : service.phase = .reading)
    {texts : List (List Char)} {invalid : Option Utf8.Invalid}
    (decoded : decodeLines (lines service.hungUp service.unread).1 = (texts, invalid)) :
    ∃ after, Gives service after (service.serving.server.handleLines texts).2.responses ∧
      after.serving.server = (service.serving.server.handleLines texts).1 ∧
      after.serving.retired = service.serving.retired ∧ after.hungUp = service.hungUp ∧
      after.phase = invalid.elim (if service.hungUp then .draining else .reading)
        (fun invalid => .ended (.failed (.notText invalid))) ∧
      (invalid = none → after.unread = (lines service.hungUp service.unread).2) := by
  obtain ⟨count, serving, phase, hungUp, unread⟩ := runFrom_reads reading decoded
  rw [Serving.runFrom_lines] at serving
  refine ⟨_, ⟨⟨List.replicate count .read, ?_, rfl⟩, ?_, ?_⟩, ?_, ?_, hungUp, phase, unread⟩
  · simp [Event.isInput]
  all_goals rw [serving]

end Agent.Service

namespace Gateway

inductive Input where
  | fromAgent (disk : Disk) (ended : Bool) (bytes : List UInt8)
  | fromServer (ended : Bool) (bytes : List UInt8)

def takeIn (gateway : Gateway) : Input → Gateway × Effects
  | .fromAgent disk ended bytes => gateway.receive disk ended bytes
  | .fromServer ended bytes => gateway.receiveFromServer ended bytes

def takeInAll (gateway : Gateway) : List Input → Gateway × Effects
  | [] => (gateway, .none)
  | input :: rest =>
    let (gateway, effects) := gateway.takeIn input
    let (gateway, more) := gateway.takeInAll rest
    (gateway, effects.append more)

def Input.events : Input → List Service.Event
  | .fromAgent _ ended bytes => .arrive bytes :: if ended then [.hangUp] else []
  | .fromServer _ _ => []

structure Works (serving : Serving) (gateway : Gateway) (operation : Gateway × Effects) : Prop where
  works : ∃ works : List Service.Work, serving.runFrom (works.map Service.Work.event) =
    { serving with
      server := operation.1.server, queued := serving.queued ++ operation.2.responses }
  unread : operation.1.unread = gateway.unread
  inputEnded : operation.1.inputEnded = gateway.inputEnded
  served : operation.1.served = gateway.served

section Works

variable {serving : Serving} {gateway : Gateway}

theorem works_absorb (same : serving.server = gateway.server) (fresh : serving.retired = [])
    (operation : Session × Session.Effects) :
    Works serving gateway (gateway.absorb operation) := by
  refine ⟨⟨operation.2.finished.flatMap Finished.works, ?_⟩, rfl, rfl, rfl⟩
  rw [runFrom_conclude fresh, same]
  rfl

theorem works_carryOut (same : serving.server = gateway.server) (fresh : serving.retired = [])
    (disk : Disk) (order : Order) : Works serving gateway (gateway.carryOut disk order) := by
  cases order with
  | cancel ticket => exact works_absorb same fresh _
  | start ticket prepared =>
    cases prepared with
    | query query => exact works_absorb same fresh _
    | answered result =>
      refine ⟨⟨[.retire ticket result, .respond ticket], ?_⟩, rfl, rfl, rfl⟩
      have unretired : ∀ entry ∈ serving.retired, entry.1.ticket ≠ ticket := by simp [fresh]
      have finished := Serving.runFrom_finish unretired result
      rw [same] at finished
      exact finished

theorem works_carryOutAll (same : serving.server = gateway.server) (fresh : serving.retired = [])
    (disk : Disk) (orders : List Order) :
    Works serving gateway (gateway.carryOutAll disk orders) := by
  induction orders generalizing serving gateway with
  | nil => exact ⟨⟨[], by simp [Serving.runFrom, carryOutAll, Effects.none, ← same]⟩, rfl, rfl, rfl⟩
  | cons order orders ih =>
    obtain ⟨⟨works, worked⟩, unread, inputEnded, served⟩ := works_carryOut same fresh disk order
    have same' : (serving.runFrom (works.map Service.Work.event)).server =
        (gateway.carryOut disk order).1.server := by rw [worked]
    have fresh' : (serving.runFrom (works.map Service.Work.event)).retired = [] := by
      rw [worked]
      exact fresh
    obtain ⟨⟨works', worked'⟩, unread', inputEnded', served'⟩ := ih same' fresh'
    refine ⟨⟨works ++ works', ?_⟩, unread'.trans unread, inputEnded'.trans inputEnded,
      served'.trans served⟩
    rw [List.map_append, Serving.runFrom_append, worked', worked]
    simp [carryOutAll, Effects.append]

theorem works_carryOutOrders (same : serving.server = gateway.server)
    (fresh : serving.retired = []) (disk : Disk) (orders : List Order) :
    Works serving gateway (gateway.carryOutOrders disk orders) :=
  works_carryOutAll same fresh disk _

end Works

/-- A service is where a gateway is. -/
inductive Mirrors (gateway : Gateway) (service : Service) : Prop
  | serving (unserved : gateway.served = none)
      (hungUp : service.hungUp = gateway.inputEnded)
      (phase : service.phase = if gateway.inputEnded then .draining else .reading)
      (unread : gateway.inputEnded = false → service.unread = gateway.unread)
      (server : service.serving.server = gateway.server) (fresh : service.serving.retired = [])
  | finished (served : gateway.served = some .finished) (hungUp : service.hungUp = true)
      (phase : service.phase = .flushing)
      (idle : gateway.server.running = []) (server : service.serving.server = gateway.server)
  | broken {invalid : Utf8.Invalid} (served : gateway.served = some (.unreadable invalid))
      (phase : service.phase = .ended (.failed (.notText invalid)))
      (idle : gateway.server.running = []) (dropped : service.serving.server.running = [])

theorem mirrors_start (catalogue : Catalogue) :
    Mirrors (start catalogue) (Service.start catalogue) :=
  .serving rfl rfl rfl (fun _ => rfl) rfl rfl

section Mirrors

variable {gateway : Gateway} {service : Service}

theorem Mirrors.settle (mirrors : Mirrors gateway service) :
    ∃ after, Service.Gives service after [] ∧ Mirrors gateway.settle after := by
  have stays (same : gateway.settle = gateway) :
      ∃ after, Service.Gives service after [] ∧ Mirrors gateway.settle after :=
    ⟨service, .refl service, by rw [same]; exact mirrors⟩
  cases mirrors with
  | finished served => exact stays (by simp [Gateway.settle, served])
  | broken served => exact stays (by simp [Gateway.settle, served])
  | serving unserved hungUp phase unread server fresh =>
    by_cases done : gateway.inputEnded = true ∧ gateway.server.isIdle = true
    · obtain ⟨ended, idle⟩ := done
      have joined : service.runFrom [.join] =
          { service with serving := Service.dispose service.serving, phase := .flushing } := by
        simp [Service.runFrom, Service.step, phase, ended, server, idle, fresh]
      refine ⟨_, ⟨⟨[.join], rfl, joined⟩, (List.append_nil _).symm, rfl⟩, ?_⟩
      have settled : gateway.settle = { gateway with served := some .finished, server :=
          { gateway.server with catalogue := gateway.server.catalogue.dispose } } := by
        simp [Gateway.settle, unserved, ended, idle]
      rw [settled]
      exact .finished rfl (hungUp.trans ended) rfl (List.isEmpty_iff.mp idle)
        (by simp [Service.dispose, server])
    · refine stays ?_
      rw [Gateway.settle, if_neg]
      simpa [unserved] using done

theorem mirrors_works (unserved : gateway.served = none)
    (hungUp : service.hungUp = gateway.inputEnded)
    (phase : service.phase = if gateway.inputEnded then .draining else .reading)
    (unread : gateway.inputEnded = false → service.unread = gateway.unread)
    (fresh : service.serving.retired = []) {operation : Gateway × Effects}
    (works : Works service.serving gateway operation) :
    ∃ after, Service.Gives service after operation.2.responses ∧
      Mirrors operation.1.settle after := by
  obtain ⟨⟨works, worked⟩, unread', inputEnded', served'⟩ := works
  have gives := Service.gives_works worked
  have mirrors : Mirrors operation.1 { service with serving := { service.serving with
      server := operation.1.server
      queued := service.serving.queued ++ operation.2.responses } } := by
    refine .serving (served'.trans unserved) (hungUp.trans inputEnded'.symm) ?_ ?_ rfl fresh
    · rw [inputEnded']
      exact phase
    · rw [inputEnded', unread']
      exact unread
  obtain ⟨after, quiet, settled⟩ := mirrors.settle
  have both := gives.trans quiet
  rw [List.append_nil] at both
  exact ⟨after, both, settled⟩

theorem conclude_of_idle {server : Server} (idle : server.running = [])
    (finished : List Finished) : conclude server finished = (server, []) := by
  induction finished with
  | nil => rfl
  | cons done finished ih =>
    obtain ⟨ticket, goal, outcome⟩ := done
    cases goal with
    | query query => simp [conclude, Server.finish, Server.retire, idle, ih]
    | value => exact ih
    | handshake => exact ih
    | farewell => exact ih

theorem receiveFromServer_of_idle (idle : gateway.server.running = [])
    (served : gateway.served.isSome = true) (ended : Bool) (bytes : List UInt8) :
    (gateway.receiveFromServer ended bytes).1.server = gateway.server ∧
      (gateway.receiveFromServer ended bytes).2.responses = [] ∧
      (gateway.receiveFromServer ended bytes).1.served = gateway.served := by
  obtain ⟨ending, isServed⟩ := Option.isSome_iff_exists.mp served
  simp [receiveFromServer, absorb, conclude_of_idle idle, Gateway.settle, isServed]

theorem Mirrors.fromServer (mirrors : Mirrors gateway service) (ended : Bool)
    (bytes : List UInt8) :
    ∃ after, Service.Gives service after (gateway.receiveFromServer ended bytes).2.responses ∧
      Mirrors (gateway.receiveFromServer ended bytes).1 after := by
  cases mirrors with
  | serving unserved hungUp phase unread server fresh =>
    exact mirrors_works unserved hungUp phase unread fresh
      (works_absorb server fresh (gateway.session.receive ended bytes))
  | finished served hungUp phase idle server =>
    obtain ⟨server', quiet, served'⟩ :=
      receiveFromServer_of_idle idle (by simp [served]) ended bytes
    refine ⟨service, ?_, ?_⟩
    · rw [quiet]
      exact .refl service
    · exact .finished (served'.trans served) hungUp phase (by rw [server', idle])
        (server.trans server'.symm)
  | broken served phase idle dropped =>
    obtain ⟨server', quiet, served'⟩ :=
      receiveFromServer_of_idle idle (by simp [served]) ended bytes
    refine ⟨service, ?_, ?_⟩
    · rw [quiet]
      exact .refl service
    · exact .broken (served'.trans served) phase (by rw [server', idle]) dropped

theorem Mirrors.fromAgent_of_over (mirrors : Mirrors gateway service)
    (past : (gateway.inputEnded || gateway.served.isSome) = true) (disk : Disk) (ended : Bool)
    (bytes : List UInt8) :
    Mirrors gateway (service.runFrom (Input.fromAgent disk ended bytes).events) := by
  have steps : service.runFrom (Input.fromAgent disk ended bytes).events =
      { service with
        unread := if service.hungUp then service.unread else service.unread ++ bytes
        hungUp := service.hungUp || ended } := by
    cases ended <;> cases hungUp : service.hungUp <;>
      simp [Input.events, Service.runFrom, Service.step, hungUp]
    all_goals rw [← hungUp]
  rw [steps]
  cases mirrors with
  | serving unserved hungUp phase unread server fresh =>
    have inputEnded : gateway.inputEnded = true := by simpa [unserved] using past
    exact .serving unserved (by simp [hungUp, inputEnded]) phase
      (fun listening => by simp [inputEnded] at listening) server fresh
  | finished served hungUp phase idle server =>
    exact .finished served (by simp [hungUp]) phase idle server
  | broken served phase idle dropped => exact .broken served phase idle dropped

section Receive

variable {disk : Disk} {ended : Bool} {bytes : List UInt8} {texts : List (List Char)}

def handled (gateway : Gateway) (ended : Bool) (bytes : List UInt8) (texts : List (List Char)) :
    Gateway :=
  { gateway with
    server := (gateway.server.handleLines texts).1
    unread := (lines ended (gateway.unread ++ bytes)).2
    inputEnded := ended }

theorem receive_of_texts (listening : gateway.inputEnded = false) (unserved : gateway.served = none)
    (decoded : decodeLines (lines ended (gateway.unread ++ bytes)).1 = (texts, none)) :
    let operation := (gateway.handled ended bytes texts).carryOutOrders disk
      (gateway.server.handleLines texts).2.orders
    gateway.receive disk ended bytes =
      (operation.1.settle,
        Effects.append ⟨(gateway.server.handleLines texts).2.responses, []⟩ operation.2) := by
  rw [receive, if_neg (by simp [listening, unserved])]
  simp only [decoded]
  rfl

theorem receive_of_invalid (listening : gateway.inputEnded = false)
    (unserved : gateway.served = none) {invalid : Utf8.Invalid}
    (decoded : decodeLines (lines ended (gateway.unread ++ bytes)).1 = (texts, some invalid)) :
    gateway.receive disk ended bytes =
      ((gateway.handled ended bytes texts).breakOff invalid,
        ⟨(gateway.server.handleLines texts).2.responses, []⟩) := by
  rw [receive, if_neg (by simp [listening, unserved])]
  simp only [decoded]
  rfl

theorem mirrors_lines (unserved : gateway.served = none) (listening : gateway.inputEnded = false)
    (phase : service.phase = .reading) (unread : service.unread = gateway.unread ++ bytes)
    (hungUp : service.hungUp = ended) (server : service.serving.server = gateway.server)
    (fresh : service.serving.retired = []) (disk : Disk) :
    ∃ after, Service.Gives service after (gateway.receive disk ended bytes).2.responses ∧
      Mirrors (gateway.receive disk ended bytes).1 after := by
  subst hungUp
  obtain ⟨⟨texts, invalid⟩, decoded⟩ : ∃ found,
      decodeLines (lines service.hungUp service.unread).1 = found := ⟨_, rfl⟩
  obtain ⟨read, gives, server', retired, hungUp', phase', unread'⟩ :=
    Service.gives_reads phase decoded
  rw [server] at gives server'
  rw [fresh] at retired
  rw [unread] at decoded unread'
  cases invalid with
  | none =>
    rw [receive_of_texts listening unserved decoded]
    have unserved' : (gateway.handled service.hungUp bytes texts).served = none := unserved
    have worked := @works_carryOutOrders _ (gateway.handled service.hungUp bytes texts)
      server' retired disk (gateway.server.handleLines texts).2.orders
    obtain ⟨after, gives', mirrors⟩ := mirrors_works unserved' hungUp' phase'
      (fun _ => unread' rfl) retired worked
    exact ⟨after, gives.trans gives', mirrors⟩
  | some invalid =>
    rw [receive_of_invalid listening unserved decoded]
    obtain ⟨left, running, dropped⟩ :=
      Service.runFrom_drops phase' (read.serving.server.running.map RunningCall.ticket)
    have quiet : Service.Gives read { read with serving := { read.serving with server := left } }
        [] := by
      refine ⟨⟨_, ?_, dropped⟩, (List.append_nil _).symm, rfl⟩
      simp [Service.Event.isInput]
    have both := gives.trans quiet
    rw [List.append_nil] at both
    refine ⟨_, both, .broken rfl phase' rfl ?_⟩
    rw [running, List.filter_eq_nil_iff]
    intro call among
    simpa using ⟨call, among, rfl⟩

end Receive

theorem Mirrors.fromAgent (mirrors : Mirrors gateway service) (disk : Disk) (ended : Bool)
    (bytes : List UInt8) :
    ∃ after, Service.Gives (service.runFrom (Input.fromAgent disk ended bytes).events) after
        (gateway.receive disk ended bytes).2.responses ∧
      Mirrors (gateway.receive disk ended bytes).1 after := by
  by_cases past : (gateway.inputEnded || gateway.served.isSome) = true
  · have nothing : gateway.receive disk ended bytes = (gateway, .none) := by
      rw [receive, if_pos past]
    rw [nothing]
    exact ⟨_, .refl _, mirrors.fromAgent_of_over past disk ended bytes⟩
  · rw [Bool.not_eq_true, Bool.or_eq_false_iff] at past
    obtain ⟨listening, unserved⟩ := past
    cases mirrors with
    | finished served => simp [served] at unserved
    | broken served => simp [served] at unserved
    | serving unserved hungUp phase unread server fresh =>
      rw [listening] at hungUp phase
      have arrived : service.runFrom (Input.fromAgent disk ended bytes).events =
          { service with unread := gateway.unread ++ bytes, hungUp := ended } := by
        rw [← unread listening]
        cases ended <;> simp [Input.events, Service.runFrom, Service.step, hungUp]
      rw [arrived]
      refine mirrors_lines unserved listening ?_ rfl rfl ?_ ?_ disk
      · exact phase
      · exact server
      · exact fresh

/-- Whatever comes to a gateway, the service gets to where the gateway gets, and gives the same
    responses. -/
theorem Mirrors.takeIn (mirrors : Mirrors gateway service) (input : Input) :
    ∃ after, Service.Gives (service.runFrom input.events) after
        (gateway.takeIn input).2.responses ∧
      Mirrors (gateway.takeIn input).1 after := by
  cases input with
  | fromAgent disk ended bytes => exact mirrors.fromAgent disk ended bytes
  | fromServer ended bytes => exact mirrors.fromServer ended bytes

theorem Input.filter_events (input : Input) :
    input.events.filter Service.Event.isInput = input.events := by
  cases input with
  | fromAgent disk ended bytes => cases ended <;> rfl
  | fromServer ended bytes => rfl

theorem Input.serving_runFrom (input : Input) (service : Service) :
    (service.runFrom input.events).serving = service.serving := by
  cases input with
  | fromServer ended bytes => rfl
  | fromAgent disk ended bytes =>
    cases ended <;> cases hungUp : service.hungUp <;>
      simp [Input.events, Service.runFrom, Service.step, hungUp]

theorem Mirrors.takeInAll (mirrors : Mirrors gateway service) (inputs : List Input) :
    ∃ events, events.filter Service.Event.isInput = inputs.flatMap Input.events ∧
      Mirrors (gateway.takeInAll inputs).1 (service.runFrom events) ∧
      (service.runFrom events).serving.queued =
        service.serving.queued ++ (gateway.takeInAll inputs).2.responses ∧
      (service.runFrom events).serving.written = service.serving.written := by
  induction inputs generalizing gateway service with
  | nil => exact ⟨[], rfl, mirrors, (List.append_nil _).symm, rfl⟩
  | cons input inputs ih =>
    obtain ⟨after, ⟨⟨own, isOwn, came⟩, queued, written⟩, mirrors'⟩ := mirrors.takeIn input
    obtain ⟨events, inputs', last, queued', written'⟩ := ih mirrors'
    have steps : service.runFrom (input.events ++ (own ++ events)) = after.runFrom events := by
      rw [Service.runFrom_append, Service.runFrom_append, came]
    rw [input.serving_runFrom] at queued written
    refine ⟨input.events ++ (own ++ events), ?_, ?_⟩
    · rw [List.filter_append, List.filter_append, input.filter_events, isOwn, inputs']
      rfl
    · rw [steps, queued', queued, written', written, List.append_assoc]
      exact ⟨last, rfl, rfl⟩

end Mirrors

/-- All that a gateway does, from the first piece that comes to it on, is what a service does whose
    agent sends the same bytes: some run of it gives the same responses in the same order. -/
theorem mirrors_run (catalogue : Catalogue) (inputs : List Input) :
    ∃ events, events.filter Service.Event.isInput = inputs.flatMap Input.events ∧
      Mirrors ((start catalogue).takeInAll inputs).1 (Service.run catalogue events) ∧
      (Service.run catalogue events).serving.queued =
        ((start catalogue).takeInAll inputs).2.responses ∧
      (Service.run catalogue events).serving.written = [] :=
  (mirrors_start catalogue).takeInAll inputs

end Gateway

end CodeGateway
