/-
# What the parts of a station's programs can come to

Many statements about programs rest on there being certain acts that a part of
them never comes to.  For each part it is said here which acts it can come to, as
conditions under which all it does is allowed; whoever needs that for a notion of
its own just checks the acts.
-/

import ShutterRadio.Proofs.Program.Path

namespace ShutterRadio

/-- The calls that a start makes, whatever becomes of them. -/
def Station.startCalls (setup : Setup) : List Call :=
  [.reset, .configure, .setSymbolWidth setup.symbolWidth, .setFrequency setup.frequency,
    .version, .bitRate, .frequency, .setSync listenSync, .setFormat true 7, .listen]

namespace Program

variable {ε : Type} {allowed : Act → Prop} (describe : ε → String)

theorem Uses.report {asked : Call} (call : allowed (.call asked))
    (told : ∀ note, allowed (.tell note)) : (report describe asked).Uses allowed := by
  apply Uses.bind ((uses_once _).mpr call)
  intro answer
  cases answer with
  | ok _ => exact uses_done ()
  | error fault => exact (uses_once _).mpr (told _)

theorem Uses.listen (sync : allowed (.call (.setSync Station.listenSync)))
    (format : allowed (.call (.setFormat true 7))) (listening : allowed (.call .listen))
    (told : ∀ note, allowed (.tell note)) : (listen describe).Uses allowed := by
  apply Uses.bind (Uses.report describe sync told)
  intro _
  apply Uses.bind (Uses.report describe format told)
  intro _
  exact Uses.report describe listening told

theorem Uses.start (setup : Setup) (idle : allowed (.become .idle))
    (calls : ∀ asked ∈ Station.startCalls setup, allowed (.call asked))
    (told : ∀ note, allowed (.tell note)) : (start describe setup).Uses allowed := by
  simp only [Station.startCalls, List.forall_mem_cons] at calls
  obtain ⟨reset, configure, width, channel, version, rate, frequency, sync, format, listening, -⟩ :=
    calls
  have listens : (Program.listen describe).Uses allowed :=
    Uses.listen describe sync format listening told
  refine Uses.bind ((uses_once _).mpr idle) fun _ => ?_
  refine Uses.bind (Uses.report describe reset told) fun _ => ?_
  refine Uses.bind (Uses.report describe configure told) fun _ => ?_
  refine Uses.bind (Uses.report describe width told) fun _ => ?_
  refine Uses.bind (Uses.report describe channel told) fun _ => ?_
  refine Uses.bind ((uses_once _).mpr version) fun _ => ?_
  refine Uses.bind ((uses_once _).mpr rate) fun _ => ?_
  refine Uses.bind ((uses_once _).mpr frequency) fun _ => ?_
  split
  · exact Uses.bind ((uses_once _).mpr (told _)) fun _ => listens
  · exact listens

theorem Uses.shutDown (standby : allowed (.call .standby)) (shut : allowed (.become .shutDown))
    (told : ∀ note, allowed (.tell note)) : (shutDown describe).Uses allowed := by
  apply Uses.bind (Uses.report describe standby told)
  intro _
  exact Uses.bind ((uses_once _).mpr shut) fun _ => (uses_once _).mpr (told _)

theorem Uses.play {steps : List Burst.Step}
    (calls : ∀ asked, .ask asked ∈ steps → allowed (.call asked)) (clock : allowed .clock)
    (wait : ∀ deadline, allowed (.wait deadline)) (mark : Instant) :
    (Program.play mark steps : Program ε _).Uses allowed := by
  induction steps generalizing mark with
  | nil => exact uses_done _
  | cons step steps ih =>
      have later := ih fun asked member => calls asked (List.mem_cons_of_mem _ member)
      cases step with
      | mark => exact ⟨clock, fun now => later now⟩
      | await offset => exact ⟨wait _, fun _ => later mark⟩
      | ask asked =>
          refine ⟨calls asked List.mem_cons_self, fun answer => ?_⟩
          cases answer with
          | ok _ => exact later mark
          | error fault => exact uses_done _

theorem Uses.settle (remote : UInt32) (ending : Except ε Unit) (sent : allowed (.count .sent))
    (abandoned : allowed (.count .abandoned)) (told : ∀ note, allowed (.tell note)) :
    (settle describe remote ending).Uses allowed := by
  cases ending with
  | ok _ => exact (uses_once _).mpr sent
  | error fault =>
      exact Uses.bind ((uses_once _).mpr abandoned) fun _ => (uses_once _).mpr (told _)

theorem Uses.transmit (setup : Setup) (transmission : Transmission)
    (becomes : allowed (.become .transmitting) ∧ allowed (.become .idle))
    (standby : allowed (.call .standby)) (light : ∀ on, allowed (.light on))
    (bursts : (Program.burst (Frame.encode setup.key transmission.command)
      transmission.repeats : Program ε _).Uses allowed)
    (counts : allowed (.count .sent) ∧ allowed (.count .abandoned)) (calm : allowed .calm)
    (listens : (Program.listen describe).Uses allowed) (told : ∀ note, allowed (.tell note)) :
    (transmit describe setup transmission).Uses allowed := by
  have stands := Uses.report describe standby told
  refine Uses.bind ((uses_once _).mpr becomes.1) fun _ => ?_
  refine Uses.bind ((uses_once _).mpr (told _)) fun _ => ?_
  refine Uses.bind stands fun _ => ?_
  refine Uses.bind ((uses_once _).mpr (light true)) fun _ => ?_
  refine Uses.bind bursts fun ending => ?_
  refine Uses.bind (Uses.settle describe _ ending counts.1 counts.2 told) fun _ => ?_
  refine Uses.bind ((uses_once _).mpr (light false)) fun _ => ?_
  refine Uses.bind stands fun _ => ?_
  refine Uses.bind ((uses_once _).mpr calm) fun _ => ?_
  exact Uses.bind listens fun _ => (uses_once _).mpr becomes.2

theorem Uses.serve (setup : Setup) {request : Request}
    (transmits : ∀ transmission, (Program.transmit describe setup transmission).Uses allowed)
    (listens : (Program.listen describe).Uses allowed)
    (shuts : (Program.shutDown describe).Uses allowed) :
    (serve describe setup request).Uses allowed := by
  cases request with
  | transmit transmission => exact Uses.bind (transmits transmission) fun _ => uses_done _
  | listen => exact Uses.bind listens fun _ => uses_done _
  | shutdown => exact Uses.bind shuts fun _ => uses_done _

theorem Uses.takeIn {command : Command} (clock : allowed .clock)
    (recorded : ∀ now, allowed (.record command now)) (heard : allowed (.count .heard))
    (lost : allowed (.count .lost)) (told : ∀ note, allowed (.tell note)) :
    (takeIn command : Program ε Unit).Uses allowed := by
  apply Uses.bind ((uses_once _).mpr clock)
  intro now
  apply Uses.bind ((uses_once _).mpr (recorded now))
  intro placement
  cases placement with
  | appended => exact Uses.bind ((uses_once _).mpr heard) fun _ => (uses_once _).mpr (told _)
  | repeated => exact uses_done ()
  | dropped => exact Uses.bind ((uses_once _).mpr lost) fun _ => (uses_once _).mpr (told _)

theorem Uses.absorb {packet : Frame} (clock : allowed .clock)
    (recorded : ∀ command now, allowed (.record command now)) (heard : allowed (.count .heard))
    (lost : allowed (.count .lost)) (rejected : allowed (.count .rejected))
    (told : ∀ note, allowed (.tell note)) : (absorb packet : Program ε Unit).Uses allowed := by
  unfold Program.absorb
  split
  · exact Uses.takeIn clock (recorded _) heard lost told
  · exact Uses.bind ((uses_once _).mpr rejected) fun _ => (uses_once _).mpr (told _)

theorem Uses.fetch (receive : allowed (.call (.receive frameLength)))
    (absorbs : ∀ packet, (Program.absorb packet : Program ε Unit).Uses allowed)
    (listens : (Program.listen describe).Uses allowed) (told : ∀ note, allowed (.tell note)) :
    (fetch describe).Uses allowed := by
  apply Uses.bind ((uses_once _).mpr receive)
  intro answer
  cases answer with
  | error fault => exact Uses.bind ((uses_once _).mpr (told _)) fun _ => listens
  | ok bytes => exact Uses.bind (absorbs _) fun _ => listens

end Program

end ShutterRadio
