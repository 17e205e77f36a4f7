import AppConfig.Proofs.Document.References

/-! # The names that readers register

A reader that ends with a part of the plan has registered the names of that part, in the order of
the plan and no others: `registers_readNode`, `registers_readNodes`.
-/

namespace AppConfig.Document
set_option autoImplicit false
open Outcome

theorem register_result_ok {key name : String} :
    (register key name).result = .ok () ↔ Identifier.isValid name = true := by
  unfold register
  by_cases h : Identifier.isValid name = true
  · simp [h]
  · simp [h]

theorem registers_register (key name : String) : Registers (fun _ => [name]) (register key name) := by
  intro u hu
  cases u
  rw [register, if_pos (register_result_ok.mp hu)]
  rfl

/-! ## Fields -/

theorem declaredOr_registered (o : Members) (key default : String) :
    (declaredOr o key default).journal.registered = [] := by
  apply registered_bind_nil
  · rw [Fields.optionalText_journal]
    rfl
  · intro declared
    cases declared <;> rfl

theorem registers_readSymbol (o : Members) (key default : String) :
    Registers (fun name => [name]) (readSymbol o key default) := by
  intro name hname
  simp only [readSymbol, bind_result_ok, pure_result, Except.ok.injEq] at hname
  obtain ⟨name, hdeclared, u, hregister, rfl⟩ := hname
  rw [readSymbol, bind_registered_ok hdeclared, bind_registered_ok hregister,
    declaredOr_registered, registers_register key name u hregister]
  rfl

theorem readReference_registered (site : Site) (o : Members) (key : String) :
    (readReference site o key).journal.registered = [] := by
  apply registered_bind_nil
  · rw [Fields.optionalText_journal]
    rfl
  · intro declared
    cases declared with
    | none => rfl
    | some raw =>
      apply registered_bind_nil
      · rw [requireFile_journal]
        rfl
      · intro u
        rfl

/-! ## Entities -/

theorem registers_readTimer (index : Nat) (o : Members) :
    Registers (fun t => [t.id, t.callback]) (readTimer index o) := by
  intro t ht
  simp only [readTimer, bind_result_ok, pure_result, Except.ok.injEq] at ht
  obtain ⟨id, hid, clock, hclock, period, hperiod, callback, hcallback, rfl⟩ := ht
  rw [readTimer, bind_registered_ok hid, bind_registered_ok hclock, bind_registered_ok hperiod,
    bind_registered_ok hcallback, registers_readSymbol o _ _ id hid, Fields.code_journal,
    Fields.natural_journal, registers_readSymbol o _ _ callback hcallback]
  rfl

theorem readMessage_registered (site : Site) (o : Members) :
    (readMessage site o).journal.registered = [] := by
  apply registered_bind_nil
  · rw [Fields.text_journal]
    rfl
  · intro name
    apply registered_bind_nil
    · rw [Fields.code_journal]
      rfl
    · intro format
      apply registered_bind_nil (readReference_registered site o "msg_src")
      intro source
      rfl

theorem registers_readEndpoint (site : Site) (kind : EndpointKind) (index : Nat) (o : Members) :
    Registers (fun e => [e.id, e.function]) (readEndpoint site kind index o) := by
  intro e he
  simp only [readEndpoint, bind_result_ok, pure_result, Except.ok.injEq] at he
  obtain ⟨id, hid, channel, hchannel, message, hmessage, function, hfunction, rfl⟩ := he
  rw [readEndpoint, bind_registered_ok hid, bind_registered_ok hchannel,
    bind_registered_ok hmessage, bind_registered_ok hfunction, registers_readSymbol o _ _ id hid,
    Fields.text_journal, readMessage_registered, registers_readSymbol o _ _ function hfunction]
  rfl

theorem registers_asObjects (key : String) (items : List Json) :
    Registers (fun _ => []) (elements key items fun _ v => asObject v) := by
  intro objects hobjects
  have h : Registers (fun os : List Members => os.flatMap fun _ => [])
      (elements key items fun _ v => asObject v) :=
    Registers.elements fun _ v o _ => by rw [asObject_journal]; rfl
  rw [h objects hobjects]
  simp

theorem registers_readEntities {α : Type} {names : α → List String} {f : Nat → Members → Outcome α}
    (h : ∀ index o, Registers names (f index o)) (o : Members) (kind : EntityKind) :
    Registers (fun parts => parts.flatMap names) (readEntities o kind f) := by
  intro parts hparts
  simp only [readEntities, bind_result_ok] at hparts
  obtain ⟨items, hitems, objects, hobjects, hrun⟩ := hparts
  rw [readEntities, bind_registered_ok hitems, bind_registered_ok hobjects,
    Fields.optionalList_journal, registers_asObjects kind.listKey items objects hobjects]
  exact Registers.elements h parts hrun

/-! ## Nodes -/

theorem registers_readClassname (o : Members) :
    Registers (fun name => [name]) (readClassname o) := by
  intro name hname
  simp only [readClassname, bind_result_ok, pure_result, Except.ok.injEq] at hname
  obtain ⟨name, htext, u, hregister, rfl⟩ := hname
  rw [readClassname, bind_registered_ok htext, bind_registered_ok hregister, Fields.text_journal,
    registers_register "classname" name u hregister]
  rfl

theorem refuseItems_registered (o : Members) (key feature : String) :
    (refuseItems o key feature).journal.registered = [] := by
  apply registered_bind_nil
  · rw [Fields.optionalList_journal]
    rfl
  · intro items
    cases items <;> rfl

/-- The order of the names in a node is the order in which its lists are read. -/
theorem registers_readNode (site : Site) (v : Json) : Registers Node.names (readNode site v) := by
  intro n hn
  simp only [readNode, bind_result_ok, pure_result, Except.ok.injEq] at hn
  obtain ⟨o, ho, classname, hclass, qosConfig, hqos, timers, htimers, topicPubs, hpubs, topicSubs,
    hsubs, serviceServers, hservers, serviceClients, hclients, u, hactions, u', hactions', rfl⟩ := hn
  have hendpoints : ∀ (kind : EndpointKind) (es : List Endpoint),
      (readEndpoints site o kind).result = .ok es →
        (readEndpoints site o kind).journal.registered = es.flatMap fun e => [e.id, e.function] :=
    fun kind es hes => registers_readEntities (registers_readEndpoint site kind) o _ es hes
  rw [readNode, bind_registered_ok ho, bind_registered_ok hclass, bind_registered_ok hqos,
    bind_registered_ok htimers, bind_registered_ok hpubs, bind_registered_ok hsubs,
    bind_registered_ok hservers, bind_registered_ok hclients, bind_registered_ok hactions,
    bind_registered_ok hactions']
  -- Every piece becomes a list of names before the lists are put together.
  rw [asObject_journal, registers_readClassname o classname hclass, readReference_registered,
    registers_readEntities registers_readTimer o .timer timers htimers, hendpoints _ _ hpubs,
    hendpoints _ _ hsubs, hendpoints _ _ hservers, hendpoints _ _ hclients, refuseItems_registered,
    refuseItems_registered, pure_journal]
  simp [Node.names, EndpointKind.all, Node.endpoints]

theorem registers_readNodes (site : Site) (o : Members) :
    Registers (fun nodes => nodes.flatMap Node.names) (readNodes site o) := by
  intro nodes hnodes
  simp only [readNodes, bind_result_ok] at hnodes
  obtain ⟨items, hitems, hrun⟩ := hnodes
  rw [readNodes, bind_registered_ok hitems, Fields.list_journal]
  exact Registers.elements (fun _ v => registers_readNode site v) nodes hrun

end AppConfig.Document
