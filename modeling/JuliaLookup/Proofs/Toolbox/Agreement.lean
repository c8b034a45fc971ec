import JuliaLookup.Proofs.Desk.Course
import JuliaLookup.Proofs.Request.Repeating
import JuliaLookup.Proofs.Toolbox.Forwarding
import JuliaLookup.Proofs.Toolbox.Unpacking

/-!
# The tools and the desk agree

A call to a tool is checked twice: by the tool, which unpacks and binds its arguments, and by the desk. What
the desk takes the tool takes, and of what the tool takes the desk can only refuse the path. In between
nothing is lost: the desk is asked what the client asked. Main statement: `call_agrees`.
-/

namespace JuliaLookup

variable {tool : Tool} {given arguments : Entries} {t : Text} {level : Detail} {all : Bool}

/-- Where the parameters are settled, a check comes down to the path. -/
theorem Request.check_of_settled (hknown : given.names ⊆ tool.argumentNames)
    (hpath : given.get? Tool.pathName = some (.str t))
    (hsettle : ∀ p ∈ tool.parameters, p.settle given = .ok (p.setting level all)) :
    check tool given =
      ((tool.checkPath (.str t)).mapError fun fault => [{ place := [Tool.pathName], fault }]).map
        fun path => { tool, path, options := tool.options level all } := by
  have hoptions : Checked.all (tool.parameters.map fun p => p.take given) =
      .ok (tool.options level all) := options_eq_ok_iff.mpr ⟨level, all, hsettle, rfl⟩
  have hfield : Check.field Tool.pathName none tool.checkPath given =
      (tool.checkPath (.str t)).mapError fun fault => [{ place := [Tool.pathName], fault }] := by
    unfold Check.field
    rw [hpath]
  unfold check
  dsimp only
  rw [Check.record_of_known tool.isSurrogate_argumentNames hknown, hoptions, hfield]
  cases tool.checkPath (.str t) with
  | ok path => rfl
  | error fault => rfl

namespace Toolbox

/-- The arguments pass the check of a tool: they can be unpacked, and what comes of that can be bound. -/
def Passes (tool : Tool) (given : Entries) : Prop :=
  ∃ unpacked arguments, unpackAll tool given = .ok unpacked ∧ bind tool unpacked = .ok arguments

theorem field_path_eq_ok_iff : Check.field Tool.pathName none Check.text given = .ok t ↔
    given.get? Tool.pathName = some (.str t) := by
  rw [Check.field_eq_ok_iff]
  constructor
  · rintro (⟨v, hget, hv⟩ | ⟨-, hnone⟩)
    · cases v with
      | str t' =>
        obtain rfl := Except.ok.inj hv
        exact hget
      | _ => cases hv
    · cases hnone
  · intro hget
    exact .inl ⟨_, hget, rfl⟩

theorem bind_eq_ok_iff : bind tool given = .ok arguments ↔
    ∃ t level all, given.get? Tool.pathName = some (.str t) ∧
      (∀ p ∈ tool.parameters, p.settle given = .ok (p.setting level all)) ∧
      arguments = tool.words t level all := by
  unfold bind
  dsimp only
  rw [map_eq_ok_iff]
  constructor
  · rintro ⟨⟨t, options⟩, hboth, rfl⟩
    obtain ⟨ht, hoptions⟩ := Checked.both_eq_ok_iff.mp hboth
    obtain ⟨level, all, hsettle, rfl⟩ := Request.options_eq_ok_iff.mp hoptions
    exact ⟨t, level, all, field_path_eq_ok_iff.mp ht, hsettle, rfl⟩
  · rintro ⟨t, level, all, ht, hsettle, rfl⟩
    have hoptions := Request.options_eq_ok_iff.mpr ⟨level, all, hsettle, rfl⟩
    exact ⟨_, Checked.both_eq_ok_iff.mpr ⟨field_path_eq_ok_iff.mpr ht, hoptions⟩, rfl⟩

section Unpacked

variable {unpacked : Entries} (hunpacks : List.Forall₂ (Unpacks tool) given unpacked)
include hunpacks

/-- The path is not unpacked. -/
theorem get?_pathName_of_unpacks : given.get? Tool.pathName = unpacked.get? Tool.pathName := by
  have hpath : Tool.pathName ∉ tool.parameters.map Parameter.name := by cases tool <;> decide
  rcases get?_of_unpacks hunpacks Tool.pathName with ⟨hnone, hnone'⟩ | ⟨v, w, hv, hw, -, hsame⟩
  · rw [hnone, hnone']
  · rw [if_neg hpath] at hsame
    obtain rfl : w = v := hsame
    rw [hv, hw]

/-- What a parameter settles on after unpacking, it would have settled on before. -/
theorem settles_of_unpacks {p : Parameter} (hp : p ∈ tool.parameters) {x : Value}
    (h : p.Settles unpacked x) : p.Settles given x := by
  rcases get?_of_unpacks hunpacks p.name with ⟨hnone, hnone'⟩ | ⟨v, w, hv, hw, -, hstands⟩
  · rcases h with ⟨w, hw, -⟩ | ⟨-, hdefault⟩
    · rw [hnone'] at hw
      cases hw
    · exact .inr ⟨hnone, hdefault⟩
  · rw [if_pos (List.mem_map_of_mem hp)] at hstands
    rcases h with ⟨w', hw', htakes⟩ | ⟨hnone', -⟩
    · obtain rfl := Option.some.inj (hw.symm.trans hw')
      obtain rfl := htakes.eq_of_unpack hstands
      exact .inl ⟨w, hv, htakes⟩
    · rw [hnone'] at hw
      cases hw

end Unpacked

/-- What a tool binds was given as it is. -/
theorem settled_of_bind {unpacked : Entries} (hunpack : unpackAll tool given = .ok unpacked)
    (hbind : bind tool unpacked = .ok arguments) :
    ∃ t level all, given.get? Tool.pathName = some (.str t) ∧
      (∀ p ∈ tool.parameters, p.settle given = .ok (p.setting level all)) ∧
      arguments = tool.words t level all := by
  obtain ⟨t, level, all, hpath, hsettle, harguments⟩ := bind_eq_ok_iff.mp hbind
  have hunpacks := unpackAll_eq_ok_iff.mp hunpack
  refine ⟨t, level, all, (get?_pathName_of_unpacks hunpacks).trans hpath, fun p hp => ?_, harguments⟩
  have hsettles := Parameter.settle_eq_ok_iff.mp (hsettle p hp)
  exact Parameter.settle_eq_ok_iff.mpr (settles_of_unpacks hunpacks hp hsettles)

/-- The path has to be a text, and every parameter that is given a value that it takes. -/
theorem passes_iff (hnames : given.names.Nodup) : Passes tool given ↔
    (∃ t, given.get? Tool.pathName = some (.str t)) ∧
      ∀ p ∈ tool.parameters, ∀ v, given.get? p.name = some v → ∃ w, p.Takes v w := by
  constructor
  · rintro ⟨unpacked, arguments, hunpack, hbind⟩
    obtain ⟨t, level, all, hpath, hsettle, -⟩ := settled_of_bind hunpack hbind
    refine ⟨⟨t, hpath⟩, fun p hp => ?_⟩
    exact Parameter.exists_settles_iff.mp ⟨_, Parameter.settle_eq_ok_iff.mp (hsettle p hp)⟩
  · rintro ⟨⟨t, hpath⟩, htakes⟩
    -- every entry stands for itself, so unpacking changes nothing
    have hunpacks : List.Forall₂ (Unpacks tool) given given := by
      refine List.forall₂_same.mpr ?_
      rintro ⟨name, v⟩ hmem
      refine ⟨rfl, ?_⟩
      split_ifs with hparameter
      · obtain ⟨p, hp, hname⟩ := List.mem_map.mp hparameter
        have hget : given.get? p.name = some v := hname ▸ Entries.get?_eq_some_of_mem hnames hmem
        obtain ⟨w, hw⟩ := htakes p hp v hget
        exact hw.unpack
      · rfl
    have hsettles : ∀ p ∈ tool.parameters, ∃ w, p.settle given = .ok w := by
      intro p hp
      obtain ⟨w, hw⟩ := Parameter.exists_settles_iff.mpr (htakes p hp)
      exact ⟨w, Parameter.settle_eq_ok_iff.mpr hw⟩
    choose! value hvalue using hsettles
    obtain ⟨level, all, hset⟩ := Tool.exists_settle_eq_setting hvalue
    refine ⟨given, _, unpackAll_eq_ok_iff.mpr hunpacks, bind_eq_ok_iff.mpr ⟨t, level, all, hpath, ?_, rfl⟩⟩
    exact fun p hp => by rw [hvalue p hp, hset p hp]

/-! ### Calls -/

/-- What a tool binds asks the desk what was asked of the tool. -/
theorem ofCall_of_bind {unpacked : Entries} (hknown : given.names ⊆ tool.argumentNames)
    (hunpack : unpackAll tool given = .ok unpacked) (hbind : bind tool unpacked = .ok arguments) :
    given.get? Tool.pathName = arguments.get? Tool.pathName ∧
      Request.ofCall tool.name given = Request.ofCall tool.name arguments := by
  obtain ⟨t, level, all, hpath, hsettle, rfl⟩ := settled_of_bind hunpack hbind
  have hknown' : (tool.words t level all).names ⊆ tool.argumentNames := by
    rw [Tool.names_words]
    exact List.Subset.refl _
  refine ⟨hpath.trans Tool.get?_words_pathName.symm, ?_⟩
  rw [Request.ofCall_name, Request.ofCall_name, Request.check_of_settled hknown hpath hsettle,
    Request.check_of_settled hknown' Tool.get?_words_pathName fun p => Tool.settle_words]

/-- Of arguments that a tool takes, the desk can only refuse the path. -/
theorem Passes.refuses_path (h : Passes tool given) (hknown : given.names ⊆ tool.argumentNames)
    {refusal : Refusal} (hrefused : Request.ofCall tool.name given = .error refusal) :
    ∃ fault, refusal = .badArguments [{ place := [Tool.pathName], fault }] := by
  obtain ⟨unpacked, arguments, hunpack, hbind⟩ := h
  obtain ⟨t, level, all, hpath, hsettle, -⟩ := settled_of_bind hunpack hbind
  rw [Request.ofCall_name, Request.check_of_settled hknown hpath hsettle] at hrefused
  cases hcheck : tool.checkPath (.str t) with
  | ok path =>
    rw [hcheck] at hrefused
    cases hrefused
  | error fault =>
    rw [hcheck] at hrefused
    exact ⟨fault, (Except.error.inj hrefused).symm⟩

/-- What the desk takes, its tool takes. -/
theorem passes_of_ofCall (hnames : given.names.Nodup) {request : Request}
    (h : Request.ofCall tool.name given = .ok request) : Passes tool given := by
  obtain ⟨hop, hknown, ⟨t, hpath, -⟩, level, all, hsettle, -⟩ := Request.ofCall_eq_ok_iff.mp h
  obtain rfl : tool = request.tool := by
    rw [Tool.ofValue?_eq_some_iff.mpr rfl] at hop
    exact Option.some.inj hop
  refine (passes_iff hnames).mpr ⟨⟨t, hpath⟩, fun p hp => ?_⟩
  exact Parameter.exists_settles_iff.mp ⟨_, Parameter.settle_eq_ok_iff.mp (hsettle p hp)⟩

section Calls

variable {τ : Type} [Sub τ] [LT τ] [DecidableRel (α := τ) (· < ·)]

/-- A call depends on its arguments only through the path that it reports and the request that it makes. -/
theorem call_congr_arguments {operation : Value} {given given' : Entries}
    (hpath : given.get? Tool.pathName = given'.get? Tool.pathName)
    (hrequest : Request.ofCall operation given = Request.ofCall operation given')
    (runner : Desk.Runner) (now later : τ) (c : Cache τ) :
    Desk.call runner now later operation given c = Desk.call runner now later operation given' c := by
  have hevent : Desk.callEvent operation given = Desk.callEvent operation given' := by
    rw [Desk.callEvent, Desk.callEvent, hpath]
  have hreceive : Desk.receive now operation given c = Desk.receive now operation given' c := by
    rw [Desk.receive, Desk.receive, hrequest, hevent]
  rw [Desk.call, Desk.call, hreceive]

theorem call_of_passes (h : Passes tool given) (hknown : given.names ⊆ tool.argumentNames)
    (runner : Desk.Runner) (now later : τ) (c : Cache τ) :
    let turn := Desk.call runner now later tool.name given c
    call runner now later tool.name given c = { turn with reply := reply tool turn.reply } := by
  obtain ⟨unpacked, arguments, hunpack, hbind⟩ := h
  obtain ⟨hpath, hrequest⟩ := ofCall_of_bind hknown hunpack hbind
  intro turn
  have hturn : turn = Desk.call runner now later tool.name arguments c :=
    call_congr_arguments hpath hrequest runner now later c
  have hforward : forward? tool.name given = some (tool, arguments) :=
    forward?_eq_some_iff.mpr ⟨Tool.named?_name tool, unpacked, hunpack, hbind⟩
  rw [hturn]
  exact call_of_forward hforward runner now later c

theorem call_of_not_passes (h : ¬ Passes tool given) (runner : Desk.Runner) (now later : τ)
    (c : Cache τ) :
    (∃ problems, call runner now later tool.name given c = { reply := .invalid problems, cache := c }) ∨
      ∃ excess, call runner now later tool.name given c =
        { reply := .unreadable tool excess, cache := c } := by
  unfold call
  rw [Tool.named?_name]
  dsimp only
  cases hunpack : unpackAll tool given with
  | error excess => exact .inr ⟨excess, rfl⟩
  | ok unpacked =>
    dsimp only
    cases hbind : bind tool unpacked with
    | error problems => exact .inl ⟨problems, rfl⟩
    | ok arguments => exact absurd ⟨unpacked, arguments, hunpack, hbind⟩ h

/-- The tools agree with the desk. Take a call with declared names only. If its arguments pass the check of
the tool, the call does to the cache and the runner what the desk does when asked for the same, and reports
the same; an answer of the desk, failure or not, comes as its text; and of the arguments the desk can only
refuse the path. If they do not pass, the client is told so, and nothing is run or changed. Whatever the
desk takes does pass. -/
theorem call_agrees (hnames : given.names.Nodup) (hknown : given.names ⊆ tool.argumentNames)
    (runner : Desk.Runner) (now later : τ) (c : Cache τ) :
    let asked := Desk.call runner now later tool.name given c
    let turn := call runner now later tool.name given c
    (Passes tool given →
      (∀ a, asked.reply = .answer a → turn.reply = .text a.text) ∧
      turn.cache = asked.cache ∧ turn.run = asked.run ∧ turn.events = asked.events ∧
      ∀ refusal, Request.ofCall tool.name given = .error refusal →
        ∃ fault, refusal = .badArguments [{ place := [Tool.pathName], fault }]) ∧
    (¬ Passes tool given →
      ((∃ problems, turn.reply = .invalid problems) ∨ ∃ excess, turn.reply = .unreadable tool excess) ∧
      turn.cache = c ∧ turn.run = none ∧ turn.events = []) ∧
    ∀ request, Request.ofCall tool.name given = .ok request → Passes tool given := by
  intro asked turn
  refine ⟨fun hpasses => ?_, fun hfails => ?_, fun request => passes_of_ofCall hnames⟩
  · have hturn : turn = { asked with reply := reply tool asked.reply } :=
      call_of_passes hpasses hknown runner now later c
    rw [hturn]
    refine ⟨fun a hanswer => ?_, rfl, rfl, rfl, fun refusal => hpasses.refuses_path hknown⟩
    show reply tool asked.reply = .text a.text
    rw [hanswer, reply]
  · rcases call_of_not_passes hfails runner now later c with ⟨problems, hturn⟩ | ⟨excess, hturn⟩
    · rw [show turn = _ from hturn]
      exact ⟨.inl ⟨problems, rfl⟩, rfl, rfl, rfl⟩
    · rw [show turn = _ from hturn]
      exact ⟨.inr ⟨excess, rfl⟩, rfl, rfl, rfl⟩

/-- A truth value in a spelling of its own passes, and what is then wrong with the path is told in plain
text. -/
theorem call_agrees_on_blank_path :
    let runner : Desk.Runner := fun _ => { outcome := .done "members" }
    let given : Entries := [("include_unexported", "yEs"), ("path", " ")]
    let c : Cache Int := { lifetime := 10 }
    let turn := call runner 0 1 Tool.listPackage.name given c
    Passes .listPackage given ∧ turn.run = none ∧
      turn.reply = .text "Invalid input: path: Value error, path must not be empty" := by
  intro runner given c turn
  have hnames : given.names.Nodup := by decide
  have hknown : given.names ⊆ Tool.listPackage.argumentNames := by decide
  have hpasses : Passes .listPackage given := ⟨given, _, rfl, rfl⟩
  obtain ⟨hagree, -, -⟩ := call_agrees hnames hknown runner 0 1 c
  obtain ⟨htext, -, hrun, -, -⟩ := hagree hpasses
  exact ⟨hpasses, hrun, htext _ rfl⟩

end Calls

end Toolbox

end JuliaLookup
