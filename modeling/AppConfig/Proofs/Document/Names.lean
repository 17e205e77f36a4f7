import AppConfig.Proofs.Document.Reading

/-! # The names of a plan

`identifiers_of_readDocument`: the names recorded with an app of a plan are the names in its tree,
in order; all of them are identifiers, and no two are the same.
-/

namespace AppConfig
set_option autoImplicit false

theorem Node.names_eq (n : Node) :
    n.names = n.classname :: n.timers.flatMap (fun t => [t.id, t.callback]) ++
      (n.topicPubs ++ n.topicSubs ++ n.serviceServers ++ n.serviceClients).flatMap
        fun e => [e.id, e.function] := by
  simp [names, EndpointKind.all, endpoints]

theorem Node.mem_names {n : Node} {name : String} :
    name ∈ n.names ↔ name = n.classname ∨ (∃ t ∈ n.timers, name = t.id ∨ name = t.callback) ∨
      ∃ kind, ∃ e ∈ n.endpoints kind, name = e.id ∨ name = e.function := by
  have hkind : ∀ kind : EndpointKind, kind ∈ EndpointKind.all := by
    intro kind
    cases kind <;> decide
  simp [names, hkind]

namespace Document

variable {o : Members} {site : Site}

theorem IsNode.names_valid {n : Node} (h : IsNode site o n) :
    ∀ name ∈ n.names, Identifier.isValid name = true := by
  intro name hname
  rcases Node.mem_names.mp hname with rfl | ⟨t, ht, hname⟩ | ⟨kind, e, he, hname⟩
  · exact h.valid
  · obtain ⟨index, inner, htimer⟩ := h.timers.exists_object ht
    rcases hname with rfl | rfl
    · exact htimer.id.valid
    · exact htimer.callback.valid
  · obtain ⟨index, inner, hendpoint⟩ := (h.endpoints kind).exists_object he
    rcases hname with rfl | rfl
    · exact hendpoint.id.valid
    · exact hendpoint.function.valid

theorem IsApp.names_valid {a : App} (h : IsApp site o a) :
    ∀ name ∈ a.names, Identifier.isValid name = true := by
  intro name hname
  obtain ⟨n, hn, hname⟩ := List.mem_flatMap.mp hname
  obtain ⟨index, inner, hnode⟩ := h.nodes.exists_object hn
  exact hnode.names_valid name hname

/-- The names recorded with an app are those in its tree, in order; they and its namespace can be
symbols, and no name is recorded twice. -/
theorem identifiers_of_readDocument {site : Site} {doc : Json} {plan : Plan}
    (h : (readDocument site doc).result = .ok plan) : ∀ a ∈ plan.apps,
      (a.identifiers = a.nodes.flatMap fun n =>
        n.classname :: n.timers.flatMap (fun t => [t.id, t.callback]) ++
          (n.topicPubs ++ n.topicSubs ++ n.serviceServers ++ n.serviceClients).flatMap
            fun e => [e.id, e.function]) ∧
      (∀ name ∈ a.identifiers, Identifier.isValid name = true) ∧
      Identifier.isValid a.name = true ∧ a.identifiers.Nodup := by
  intro a ha
  obtain ⟨o, -, hplan⟩ := readDocument_result_ok.mp h
  obtain ⟨index, inner, happ⟩ := hplan.apps.exists_object ha
  have hnames : a.names = a.nodes.flatMap fun n =>
      n.classname :: n.timers.flatMap (fun t => [t.id, t.callback]) ++
        (n.topicPubs ++ n.topicSubs ++ n.serviceServers ++ n.serviceClients).flatMap
          fun e => [e.id, e.function] := by
    rw [App.names, funext Node.names_eq]
  rw [happ.identifiers]
  exact ⟨hnames, happ.names_valid, happ.valid, happ.distinct⟩

theorem identifiers_of_smallDocument : ∃ plan,
    (readDocument smallSite smallDocument).result = .ok plan ∧ ∀ a ∈ plan.apps,
      (a.identifiers = a.nodes.flatMap fun n =>
        n.classname :: n.timers.flatMap (fun t => [t.id, t.callback]) ++
          (n.topicPubs ++ n.topicSubs ++ n.serviceServers ++ n.serviceClients).flatMap
            fun e => [e.id, e.function]) ∧
      (∀ name ∈ a.identifiers, Identifier.isValid name = true) ∧
      Identifier.isValid a.name = true ∧ a.identifiers.Nodup := by
  obtain ⟨plan, hplan⟩ := exists_smallPlan
  exact ⟨plan, hplan, identifiers_of_readDocument hplan⟩

end Document
end AppConfig
