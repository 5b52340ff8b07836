import DvbReceiver.Proofs.Session.Leading

/-!
# Binding streams

`BindsTo devices s pmt t` says that `s` makes the player's streams those of a PMT, with nothing in
its journal meanwhile that does not fit the PMT (`Entry.Binding`), and is then led on to `t`. There
is always an event that binds streams, if only the failure to create one
(`bindsTo_bindStreams`).
-/

namespace DvbReceiver

open Journal

namespace Pmt

/-- What is shown when the streams of the PMT are bound. -/
def channel (pmt : Pmt) : ChannelInfo where
  programNumber := pmt.programNumber
  audioPid := pmt.firstAudio?.map (·.pid)
  videoPid := pmt.firstVideo?.map (·.pid)

theorem exists_codec_of_firstVideo? {pmt : Pmt} {stream : Stream}
    (h : pmt.firstVideo? = some stream) :
    ∃ codec, stream.codec? = some codec ∧ codec.isVideo = true := by
  have htype := List.find?_some h
  simp only [videoStreamTypes, List.mem_cons, List.not_mem_nil, or_false,
    decide_eq_true_eq] at htype
  rcases htype with htype | htype | htype <;> exact ⟨_, congrArg Codec.ofStreamType? htype, rfl⟩

theorem exists_codec_of_firstAudio? {pmt : Pmt} {stream : Stream}
    (h : pmt.firstAudio? = some stream) :
    ∃ codec, stream.codec? = some codec ∧ codec.isVideo = false := by
  have htype := List.find?_some h
  simp only [audioStreamTypes, List.mem_cons, List.not_mem_nil, or_false,
    decide_eq_true_eq] at htype
  rcases htype with htype | htype <;> exact ⟨_, congrArg Codec.ofStreamType? htype, rfl⟩

section First

variable {pmt : Pmt} {stream : Stream} {codec : Codec}

theorem isSome_codec?_of_firstVideo? (h : pmt.firstVideo? = some stream) :
    stream.codec?.isSome := by
  obtain ⟨codec, hcodec, -⟩ := exists_codec_of_firstVideo? h
  rw [hcodec]
  rfl

theorem isSome_codec?_of_firstAudio? (h : pmt.firstAudio? = some stream) :
    stream.codec?.isSome := by
  obtain ⟨codec, hcodec, -⟩ := exists_codec_of_firstAudio? h
  rw [hcodec]
  rfl

theorem isVideo_of_firstVideo? (h : pmt.firstVideo? = some stream)
    (hcodec : stream.codec? = some codec) : codec.isVideo = true := by
  obtain ⟨found, hfound, hvideo⟩ := exists_codec_of_firstVideo? h
  rwa [← Option.some.inj (hfound.symm.trans hcodec)]

theorem isVideo_of_firstAudio? (h : pmt.firstAudio? = some stream)
    (hcodec : stream.codec? = some codec) : codec.isVideo = false := by
  obtain ⟨found, hfound, haudio⟩ := exists_codec_of_firstAudio? h
  rwa [← Option.some.inj (hfound.symm.trans hcodec)]

end First

end Pmt

/-- What an event that binds streams has to do with the PMT: a stream is the first of its sort,
and what is shown is the PMT's channel. -/
def Event.Fits (pmt : Pmt) : Event → Prop
  | createStream pid codec _ => ∃ stream : Pmt.Stream,
    (pmt.firstVideo? = some stream ∨ pmt.firstAudio? = some stream) ∧
      stream.pid = pid ∧ stream.codec? = some codec
  | channelBound channel => channel = pmt.channel
  | _ => True

/-- The entry takes no signal, programs no filter, and fits the PMT. -/
structure Entry.Binding (pmt : Pmt) (entry : Entry) : Prop where
  taken : entry.taken? = none
  programs : entry.programs = false
  fits : ∀ event, entry.event? = some event → event.Fits pmt

namespace Session

variable {σ : Type} (devices : Devices σ) {s t : Session σ} {pmt : Pmt}

theorem Makes.adds_binding {calls : List Event} {held : Holdings} (h : s.Makes calls held t)
    (hcalls : ∀ event ∈ calls, (Entry.event event).programs = false ∧ event.Fits pmt) :
    s.Adds (Entry.Binding pmt) t := by
  obtain ⟨hardware, entries, hentries, rfl⟩ := h
  refine ⟨entries, rfl, hentries.forall_mem (fun event he => ?_) (fun table => ?_)
    (fun signal => ?_)⟩
  · exact ⟨rfl, (hcalls event he).1, by rintro _ ⟨⟩; exact (hcalls event he).2⟩
  · exact ⟨rfl, rfl, by rintro _ ⟨⟩⟩
  · exact ⟨rfl, rfl, by rintro _ ⟨⟩⟩

section Created

variable {stream : Option Pmt.Stream} {calls events : List Event} {held : Holdings}

theorem Created.fits {result : Except DeviceError (Option (Nat × StreamHandle))}
    (h : Created stream calls result)
    (hstream : ∀ found, stream = some found →
      pmt.firstVideo? = some found ∨ pmt.firstAudio? = some found) :
    ∀ event ∈ calls, (Entry.event event).programs = false ∧ event.Fits pmt := by
  cases h with
  | nothing => simp
  | created found codec handle hfound hcodec =>
    rw [List.forall_mem_singleton]
    exact ⟨rfl, found, hstream found hfound, rfl, hcodec⟩
  | failed found codec error hfound hcodec =>
    rw [List.forall_mem_singleton]
    exact ⟨rfl, found, hstream found hfound, rfl, hcodec⟩

theorem Created.pid_eq {result : Option (Nat × StreamHandle)}
    (h : Created stream calls (.ok result))
    (hcodec : ∀ found, stream = some found → found.codec?.isSome) :
    result.map Prod.fst = stream.map (·.pid) := by
  cases h with
  | nothing hnone =>
    rcases stream with _ | found
    · rfl
    · have := hcodec found rfl
      rw [hnone found rfl] at this
      cases this
  | created found codec handle hfound _ => rw [hfound]; rfl

theorem Created.orderly_video {result : Option (Nat × StreamHandle)} (h : Orderly events held)
    (hcreated : Created stream calls (.ok result)) (hfree : held.video = none)
    (hcodec : ∀ found codec, stream = some found → found.codec? = some codec →
      codec.isVideo = true) :
    Orderly (events ++ calls) { held with video := result.map Prod.snd } := by
  cases hcreated with
  | nothing =>
    rw [List.append_nil, Option.map_none, ← hfree]
    exact h
  | created found codec handle hfound hc =>
    exact h.concat (.createVideo _ _ _ (hcodec found codec hfound hc) hfree)

theorem Created.orderly_audio {result : Option (Nat × StreamHandle)} (h : Orderly events held)
    (hcreated : Created stream calls (.ok result)) (hfree : held.audio = none)
    (hcodec : ∀ found codec, stream = some found → found.codec? = some codec →
      codec.isVideo = false) :
    Orderly (events ++ calls) { held with audio := result.map Prod.snd } := by
  cases hcreated with
  | nothing =>
    rw [List.append_nil, Option.map_none, ← hfree]
    exact h
  | created found codec handle hfound hc =>
    exact h.concat (.createAudio _ _ _ (hcodec found codec hfound hc) hfree)

theorem Created.orderly_error {error : DeviceError} (h : Orderly events held)
    (hcreated : Created stream calls (.error error)) (haudio : held.audio = none)
    (hvideo : ∀ found codec, stream = some found → found.codec? = some codec →
      held.video = none ∨ codec.isVideo = false) :
    Orderly (events ++ calls) held := by
  cases hcreated with
  | failed found codec error hfound hc =>
    exact h.concat (.createStream_error _ _ _ (hvideo found codec hfound hc) haudio)

/-- A failure to create a stream is one of the events that bind streams. -/
theorem Makes.exists_binds {error : DeviceError} (h : s.Makes calls held t)
    (hcreated : Created stream calls (.error error)) :
    ∃ before event after, t.journal = s.journal ++ before ++ .event event :: after ∧
      event.binds = true := by
  obtain ⟨hardware, entries, hentries, rfl⟩ := h
  cases hcreated with
  | failed found codec error _ _ =>
    have hmem : Event.createStream found.pid codec (.error error) ∈ Journal.events entries := by
      rw [hentries.events_eq]
      exact List.mem_singleton_self _
    obtain ⟨before, after, rfl⟩ := List.append_of_mem (Journal.mem_events.1 hmem)
    exact ⟨before, _, after, (List.append_assoc ..).symm, rfl⟩

end Created

/-- `s` binds streams of the PMT, or tries to, and is led on to `t`. -/
def BindsTo (s : Session σ) (pmt : Pmt) (t : Session σ) : Prop :=
  ∃ bound, s.Adds (Entry.Binding pmt) bound ∧
    (∃ before event after, bound.journal = s.journal ++ before ++ .event event :: after ∧
      event.binds = true) ∧
    Leads devices bound Waits t

theorem BindsTo.of_adds {u : Session σ} (hadds : s.Adds (Entry.Binding pmt) t)
    (h : BindsTo devices t pmt u) : BindsTo devices s pmt u := by
  obtain ⟨bound, hbound, ⟨before, event, after, hjournal, hbinds⟩, hleads⟩ := h
  refine ⟨bound, hadds.trans hbound, ?_, hleads⟩
  obtain ⟨entries, heq, -⟩ := hadds
  exact ⟨entries ++ before, event, after, by rw [hjournal, heq]; simp, hbinds⟩

theorem bindsTo_announce (pmt : Pmt) (h : s.Accounted) (hpat : s.FromPat) :
    BindsTo devices s pmt (s.announce devices pmt.channel) := by
  unfold announce
  extract_lets entered shown
  have hentered : entered.Accounted :=
    Accounted.enter (s := { s with channel := some pmt.channel }) ⟨h.live, h.accounts⟩ .streamsBound
  have hadds : s.Adds (Entry.Binding pmt) shown := by
    refine ⟨[.entered .streamsBound, .event (.channelBound pmt.channel)], ?_, ?_⟩
    · simp [shown, entered, enter, record]
    · simp only [List.forall_mem_cons, List.not_mem_nil, false_implies, implies_true, and_true]
      exact ⟨⟨rfl, rfl, by rintro _ ⟨⟩⟩, ⟨rfl, rfl, by rintro _ ⟨⟩; rfl⟩⟩
  have hshown : shown.Accounted := hentered.notify (by rfl)
  have hpat' : shown.FromPat := hpat.of_adds hadds rfl
  refine ⟨shown, hadds, ⟨[.entered .streamsBound], .channelBound pmt.channel, [], ?_, rfl⟩, ?_⟩
  · simp [shown, entered, enter, record]
  split
  · exact leads_await_request devices hshown hpat'
  · exact leads_findTdt devices hshown hpat'

theorem bindsTo_bindAudio (pmt : Pmt) (h : s.Accounted) (hpat : s.FromPat)
    (haudio : s.held.audio = none) :
    BindsTo devices s pmt (s.bindAudio devices pmt (pmt.firstVideo?.map (·.pid))) := by
  obtain ⟨calls, result, t, heq, hcreated, hmakes⟩ :=
    created_createStream devices h.live pmt.firstAudio?
  have hadds : s.Adds (Entry.Binding pmt) t :=
    hmakes.adds_binding (hcreated.fits fun _ => Or.inr)
  have hcodec : ∀ found codec, pmt.firstAudio? = some found → found.codec? = some codec →
      codec.isVideo = false := fun _ _ => Pmt.isVideo_of_firstAudio?
  unfold bindAudio
  rw [heq]
  rcases result with error | found
  · have horderly := hcreated.orderly_error h.accounts.orderly haudio
      fun found codec hfound hc => Or.inr (hcodec found codec hfound hc)
    exact ⟨t, hadds, hmakes.exists_binds hcreated, .ends (Adds.of_eq rfl)
      (h.makes hmakes horderly) _⟩
  · have haccounts := h.accounts_of_makes hmakes
      (hcreated.orderly_audio h.accounts.orderly haudio hcodec)
    rw [← hmakes.held_eq] at haccounts
    have hpid := hcreated.pid_eq fun _ => Pmt.isSome_codec?_of_firstAudio?
    have hannounce := bindsTo_announce devices pmt
      (s := { t with held.audio := found.map Prod.snd })
      ⟨hmakes.outcome?_eq.trans h.live, haccounts⟩
      (hpat.of_adds (hadds.trans (Adds.of_eq rfl)) hmakes.services_eq)
    rw [Pmt.channel, ← hpid] at hannounce
    exact hannounce.of_adds devices (hadds.trans (Adds.of_eq rfl))

theorem bindsTo_bindVideo (h : s.Accounted) (hpat : s.FromPat) (hvideo : s.held.video = none)
    (haudio : s.held.audio = none) : BindsTo devices s pmt (s.bindVideo devices pmt) := by
  obtain ⟨calls, result, t, heq, hcreated, hmakes⟩ :=
    created_createStream devices h.live pmt.firstVideo?
  have hadds : s.Adds (Entry.Binding pmt) t :=
    hmakes.adds_binding (hcreated.fits fun _ => Or.inl)
  unfold bindVideo
  rw [heq]
  rcases result with error | found
  · have horderly := hcreated.orderly_error h.accounts.orderly haudio fun _ _ _ _ => Or.inl hvideo
    exact ⟨t, hadds, hmakes.exists_binds hcreated, .ends (Adds.of_eq rfl)
      (h.makes hmakes horderly) _⟩
  · have haccounts := h.accounts_of_makes hmakes
      (hcreated.orderly_video h.accounts.orderly hvideo fun _ _ => Pmt.isVideo_of_firstVideo?)
    rw [← hmakes.held_eq] at haccounts
    have hpid := hcreated.pid_eq fun _ => Pmt.isSome_codec?_of_firstVideo?
    have haudio' : t.held.audio = none := hmakes.held_eq ▸ haudio
    have hbind := bindsTo_bindAudio devices pmt
      (s := { t with held.video := found.map Prod.snd })
      ⟨hmakes.outcome?_eq.trans h.live, haccounts⟩
      (hpat.of_adds (hadds.trans (Adds.of_eq rfl)) hmakes.services_eq) haudio'
    rw [← hpid] at hbind
    exact hbind.of_adds devices (hadds.trans (Adds.of_eq rfl))

/-- **Binding streams**: every stream that is created, and what is shown, fits the PMT. -/
theorem bindsTo_bindStreams (h : s.Accounted) (hpat : s.FromPat) :
    BindsTo devices s pmt (s.bindStreams devices pmt) := by
  have hvideo := makes_removeVideo devices h.live
  have h₁ := h.makes hvideo h.accounts.orderly.videoRelease
  have hnone : (s.removeVideo devices).held.video = none := by rw [hvideo.held_eq]
  have haudio := makes_removeAudio devices h₁.live
  have h₂ := h₁.makes haudio (h₁.accounts.orderly.audioRelease hnone)
  have hadds : s.Adds (Entry.Binding pmt) (s.removeVideo devices |>.removeAudio devices) := by
    refine (hvideo.adds_binding ?_).trans (haudio.adds_binding ?_)
    · simp [Holdings.videoRelease, Entry.programs, Event.Fits]
    · simp [Holdings.audioRelease, Entry.programs, Event.Fits]
  refine (bindsTo_bindVideo devices h₂ ?_ ?_ ?_).of_adds devices hadds
  · exact hpat.of_adds hadds (haudio.services_eq.trans hvideo.services_eq)
  · rw [haudio.held_eq]
    exact hnone
  · rw [haudio.held_eq]

end Session

end DvbReceiver
