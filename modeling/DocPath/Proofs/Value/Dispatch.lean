import DocPath.Value.Method

/-!
# Method calls

A value that is no host object answers the methods of its class without asking any.

A host object is asked once for each method call. What it answers stands, but for the error that there is no
such method: then the answers that every host object has are tried, and the error is raised anew if the method
is none of these. That error is known by its kind alone. So one that a host object raises about another method
or another receiver is taken for its own, and does not get through.
-/

namespace DocPath

/-- The answers that every host object has. -/
def HostObject.builtIns (object : HostObject) : List (String × Value) :=
  [("class", .str object.className), ("inspect", .str ("#<" ++ object.className ++ ">")),
    ("to_s", .str ("#<" ++ object.className ++ ">")), ("itself", .host object)]

/-- A method that a host object does not have itself: a built-in answer, or the error that there is none. -/
def HostObject.fallback (object : HostObject) (method : String) : Except ReceiverError Value :=
  match Entries.get? method object.builtIns with
  | some value => .ok value
  | none => .error (.noMethod method object.className)

namespace Value

/-- The methods that all values have are the built-in answers of a host object. -/
theorem commonMethod_host (object : HostObject) (method : String) :
    commonMethod (.host object) method = Entries.get? method object.builtIns := by
  unfold commonMethod
  split
  · rfl
  · rfl
  · rfl
  · rfl
  next hclass hinspect htext hitself =>
    simp [HostObject.builtIns, Entries.get?, Ne.symm hclass, Ne.symm hinspect, Ne.symm htext,
      Ne.symm hitself]

theorem sendCommon_host (object : HostObject) (method : String) :
    sendCommon (.host object) method = object.fallback method := by
  rw [sendCommon, commonMethod_host]
  rfl

variable (hosts : Hosts)

/-- A method of the class is answered without a call. -/
theorem send_of_ownMethod {value : Value} (hvalue : ∀ object, value ≠ host object) {method : String}
    {found : Except ReceiverError Value} (hmethod : ownMethod value method = found.map some)
    (earlier : List HostCall) : value.send hosts method earlier = ⟨[], found⟩ := by
  have hown : sendOwn value method = found := by
    rw [sendOwn, hmethod]
    cases found <;> rfl
  cases value with
  | host object => exact absurd rfl (hvalue object)
  | _ => exact congrArg (Traced.mk []) hown

theorem send_array_of_map_some {items : List Value} {method : String} {found : Except ReceiverError Value}
    (hmethod : arrayMethod items method = found.map some) (earlier : List HostCall) :
    ((array items).send hosts method earlier).result = found := by
  have hown : ownMethod (array items) method = found.map some := hmethod
  rw [send_of_ownMethod hosts (by simp) hown]

/-- What a host object answers stands, unless it says that there is no such method. -/
theorem send_host_of_ne_noMethod {object : HostObject} {method : String} {earlier : List HostCall}
    (hanswer : ∀ name receiver, hosts.send earlier object method ≠ .error (.noMethod name receiver)) :
    (host object).send hosts method earlier =
      ⟨[.send object method], hosts.send earlier object method⟩ := by
  rw [send, Consult.call]
  rcases hsend : hosts.send earlier object method with e | value
  · cases e with
    | noMethod name receiver => exact absurd hsend (hanswer name receiver)
    | _ => rfl
  · rfl

/-- When a host object answers that there is no method, whichever and of whom, its built-in answers are tried. -/
theorem send_host_of_noMethod {object : HostObject} {method : String} {earlier : List HostCall}
    {name receiver : String}
    (hanswer : hosts.send earlier object method = .error (.noMethod name receiver)) :
    (host object).send hosts method earlier = ⟨[.send object method], object.fallback method⟩ := by
  rw [send, Consult.call, hanswer, ← sendCommon_host]

/-- The object is asked once, and what it answers stands unless it is the error that there is no such method.
Any error of that kind brings in the built-in answers. So the answer gets through exactly if it is no such
error, or is about the very method and receiver of a call for which there is no built-in answer. -/
theorem send_host (object : HostObject) (method : String) (earlier : List HostCall) :
    let dispatched := (host object).send hosts method earlier
    let answer := hosts.send earlier object method
    dispatched.calls = [.send object method] ∧
    ((∀ name receiver, answer ≠ .error (.noMethod name receiver)) → dispatched.result = answer) ∧
    (∀ name receiver, answer = .error (.noMethod name receiver) →
      dispatched.result = object.fallback method) ∧
    (dispatched.result = answer ↔ ∀ name receiver, answer = .error (.noMethod name receiver) →
      name = method ∧ receiver = object.className ∧ Entries.get? method object.builtIns = none) := by
  intro dispatched answer
  by_cases hkind : ∃ name receiver, answer = .error (.noMethod name receiver)
  · obtain ⟨name, receiver, hanswer⟩ := hkind
    have hsend : dispatched = ⟨[.send object method], object.fallback method⟩ :=
      send_host_of_noMethod hosts hanswer
    rw [hsend, hanswer]
    refine ⟨rfl, fun hother => absurd rfl (hother name receiver), fun _ _ _ => rfl, ?_⟩
    rw [HostObject.fallback]
    cases Entries.get? method object.builtIns <;> simp [eq_comm]
  · have hother : ∀ name receiver, answer ≠ .error (.noMethod name receiver) := by
      intro name receiver hanswer
      exact hkind ⟨name, receiver, hanswer⟩
    have hsend : dispatched = ⟨[.send object method], answer⟩ := send_host_of_ne_noMethod hosts hother
    rw [hsend]
    refine ⟨rfl, fun _ => rfl, fun name receiver hanswer => absurd hanswer (hother name receiver), ?_⟩
    exact iff_of_true rfl fun name receiver hanswer => absurd hanswer (hother name receiver)

/-- An error of the object's own, and a method that it does not have. -/
theorem send_host_of_private :
    let hosts : Hosts :=
      ⟨fun _ object method =>
          if method = "secret" then .error (.custom "secret is private")
          else .error (.noMethod method object.className),
        fun _ _ _ => .ok .nil, fun _ _ => false, fun _ _ _ => false⟩
    let object : HostObject := ⟨0, "Person"⟩
    (∀ name receiver, hosts.send [] object "secret" ≠ .error (.noMethod name receiver)) ∧
      hosts.send [] object "class" = .error (.noMethod "class" "Person") ∧
      ((host object).send hosts "secret" []).result = .error (.custom "secret is private") ∧
      ((host object).send hosts "class" []).result = .ok (.str "Person") := by
  intro hosts object
  have hsecret : ∀ name receiver, hosts.send [] object "secret" ≠ .error (.noMethod name receiver) :=
    nofun
  have hclass : hosts.send [] object "class" = .error (.noMethod "class" "Person") := rfl
  exact ⟨hsecret, hclass, (send_host hosts object "secret" []).2.1 hsecret,
    (send_host hosts object "class" []).2.2.1 _ _ hclass⟩

/-- A method that is there and fails inside, on a nil that it calls another method of. -/
theorem send_host_ne_answer :
    let hosts : Hosts :=
      ⟨fun _ _ _ => .error (.noMethod "upcase" "NilClass"), fun _ _ _ => .ok .nil, fun _ _ => false,
        fun _ _ _ => false⟩
    let object : HostObject := ⟨0, "Person"⟩
    ((host object).send hosts "name" []).result = .error (.noMethod "name" "Person") ∧
      ((host object).send hosts "name" []).result ≠ hosts.send [] object "name" ∧
      ((host object).send hosts "to_s" []).result = .ok (.str "#<Person>") ∧
      ((host object).send hosts "to_s" []).result ≠ hosts.send [] object "to_s" := by
  intro hosts object
  exact ⟨rfl, by simp [send, Consult.call, hosts, object, sendCommon, commonMethod], rfl, nofun⟩

end Value

end DocPath
