import Massless.Request.Promotion

open python

namespace massless.request

variable {Obj : Type}

/-- How decoding the query string under an encoding ends. -/
def Django.decoding (django : Django Obj) (vars : Dict String String) (encoding : PyVal Obj) :
    Except Exc Unit :=
  match django.query_dict vars encoding with
  | .ok _ => .ok ()
  | .error e => .error (.other e)

/-- How `WSGIRequest.__init__` ends. -/
def Django.construction (django : Django Obj) (request_method : PyVal Obj)
    (vars : Dict String String) : Except Exc Unit :=
  match upper_method django request_method, django.charset vars with
  | .error e, _ => .error e
  | .ok _, none => .ok ()
  | .ok _, some charset => django.decoding (django.meta_vars vars) (.str charset)

/-- The constructor gets through the encoding setter, which forgets the form
loaded so far. -/
def Django.ResetsForm (django : Django Obj) (request_method : PyVal Obj)
    (vars : Dict String String) : Prop :=
  django.charset vars ≠ none ∧ django.construction request_method vars = .ok ()

instance (django : Django Obj) (request_method : PyVal Obj) (vars : Dict String String) :
    Decidable (django.ResetsForm request_method vars) :=
  inferInstanceAs (Decidable (_ ∧ _))

/-- What the constructor stores before it reads the method. -/
def Django.located (django : Django Obj) (request_method : PyVal Obj) (vars : Dict String String)
    (body : Bytes) : Dict String (Val Obj) :=
  let environ := Val.environ request_method (django.meta_vars vars) body
  Dict.empty
    |>.set "environ" environ
    |>.set "path_info" (.py (.str (django.path_info vars)))
    |>.set "path" (.py (.str (django.full_path vars)))
    |>.set "META" environ

/-- What the constructor stores from the method and the content type. -/
def Django.typed (django : Django Obj) (method : PyVal Obj) (vars : Dict String String)
    (dict : Dict String (Val Obj)) : Dict String (Val Obj) :=
  dict
    |>.set "method" (.py method)
    |>.set "content_type" (.py (.str (django.content_type vars).1))
    |>.set "content_params" (.content_params (django.content_type vars).2)

/-- What the constructor stores last. -/
def finished (body : Bytes) (dict : Dict String (Val Obj)) : Dict String (Val Obj) :=
  dict
    |>.set "_stream" (.stream body [])
    |>.set "_read_started" (.py (.bool false))
    |>.set "resolver_match" (.py .none)

/-- All that the constructor stores, as one dictionary: a function of the
environ alone. -/
def Django.constructed (django : Django Obj) (request_method : PyVal Obj)
    (vars : Dict String String) (body : Bytes) : Dict String (Val Obj) :=
  let located := django.located request_method vars body
  match upper_method django request_method, django.charset vars with
  | .error _, _ => located
  | .ok method, none => finished body (django.typed method vars located)
  | .ok method, some charset =>
    let encoded := (django.typed method vars located).set "_encoding" (.py (.str charset))
    match django.decoding (django.meta_vars vars) (.str charset) with
    | .ok _ => finished body encoded
    | .error _ => encoded

/-- An encoding setter that keeps decoded query strings under `cache`: with
nothing kept it stores the encoding, tries the decoding once, and forgets the
loaded form if that went well. -/
def SetsEncoding (django : Django Obj) (cache : String)
    (set_encoding : PyVal Obj → Py (Attrs Obj) Unit) : Prop :=
  ∀ (value : PyVal Obj) (self : Attrs Obj) (method : PyVal Obj) (vars : Dict String String)
    (body : Bytes), self.dict.get? "environ" = some (.environ method vars body) →
    self.dict.get? cache = none →
    (set_encoding value self).1 = django.decoding vars value ∧
      (∀ name, (set_encoding value self).2.dict.get? name =
        if name = "_encoding" then some (.py value)
        else if name = "_post" ∧ django.decoding vars value = .ok () then none
        else self.dict.get? name) ∧
      (set_encoding value self).2.allocated =
        if django.decoding vars value = .ok () then self.allocated + 1 else self.allocated

theorem GET_func_run (django : Django Obj) (self : Attrs Obj) (method : PyVal Obj)
    (vars : Dict String String) (body : Bytes) (encoding : PyVal Obj)
    (henviron : self.dict.get? "environ" = some (.environ method vars body))
    (hencoding : self.dict.get? "_encoding" = some (.py encoding)) :
    GET_func django self = match django.query_dict vars encoding with
      | .ok content => (.ok (.object self.allocated content),
          { self with allocated := self.allocated + 1 })
      | .error e => (.error (.other e), self) := by
  simp only [GET_func, request.environ_vars, encoding_value, Py.bind_run, Instance.get_item_run,
    henviron, hencoding, Py.pure_run, Py.lift_run]
  cases django.query_dict vars encoding <;> rfl

/-- An encoding setter over a `GET` that stores what it decodes under `cache`
and a deleter that drops it. -/
theorem encoding_fset_setsEncoding (django : Django Obj) {cache : String}
    (hcache : cache ∉ ["environ", "_encoding", "_post"]) (GET : Py (Attrs Obj) (Val Obj))
    (hGET : ∀ self : Attrs Obj, self.dict.get? cache = none → GET self = (do
      let cached ← GET_func django
      Instance.set_item cache (.py cached)
      pure (.py cached) : Py (Attrs Obj) (Val Obj)) self) :
    SetsEncoding django cache (encoding_fset GET (Instance.pop_item cache)) := by
  intro value self method vars body henviron hnone
  simp only [List.mem_cons, List.not_mem_nil, or_false, not_or] at hcache
  have hfunc := GET_func_run django { self with dict := self.dict.set "_encoding" (.py value) }
    method vars body value (by simpa using henviron) (by simp)
  have hget := hGET { self with dict := self.dict.set "_encoding" (.py value) }
    (by simp [hcache, hnone])
  cases hquery : django.query_dict vars value with
  | error e =>
    simp only [Py.bind_run, hfunc, hquery] at hget
    simp only [encoding_fset, Py.hasattr, Py.bind_run, Instance.set_item_run, hget,
      Django.decoding, hquery, true_and]
    simp
  | ok content =>
    simp only [Py.bind_run, hfunc, hquery, Instance.set_item_run, Py.pure_run] at hget
    simp only [encoding_fset, Py.hasattr, Py.bind_run, Instance.set_item_run, hget,
      Django.decoding, hquery, if_true, Instance.pop_item_run, Instance.get_item_run]
    have hpost_ne : "_post" ≠ cache := Ne.symm hcache.2.2
    cases hpost : self.dict.get? "_post" with
    | none =>
      simp only [Dict.get?_erase, Dict.get?_set, hpost_ne, if_false, hpost, String.reduceEq,
        Py.pure_run, true_and, and_true]
      intro name
      grind
    | some post =>
      simp only [Dict.get?_erase, Dict.get?_set, hpost_ne, if_false, hpost, String.reduceEq,
        Instance.pop_item_run, true_and, and_true]
      intro name
      grind

theorem MasslessRequest.setsEncoding (django : Django Obj) :
    SetsEncoding django "_get_cache" (MasslessRequest.set_encoding django (pure ())) :=
  fun value => encoding_fset_setsEncoding django (by decide) (MasslessRequest.GET django (pure ()))
    (fun self hnone => by simp [MasslessRequest.GET, MasslessRequest.cached_in, hnone]) value

theorem WSGIRequest.setsEncoding (django : Django Obj) :
    SetsEncoding django "GET" (WSGIRequest.set_encoding django) :=
  encoding_fset_setsEncoding django (by decide) (WSGIRequest.GET django)
    (fun self hnone => by simp [WSGIRequest.GET, WSGIRequest.cached_property, hnone])

/-- The constructor run on an object that is already in use: it ends as it would
on a fresh one, its own values replace what is there, a loaded form may be
forgotten, and everything else stays. -/
theorem wsgi_init_run (django : Django Obj) {cache : String}
    {set_encoding : PyVal Obj → Py (Attrs Obj) Unit}
    (hsets : SetsEncoding django cache set_encoding) (request_method : PyVal Obj)
    (vars : Dict String String) (body : Bytes) (self : Attrs Obj)
    (hcache : self.dict.get? cache = none)
    (hprivate : cache ∈ ["_get_cache", "GET"]) :
    (wsgi_init django set_encoding request_method vars body self).1 =
        django.construction request_method vars ∧
      (∀ name, (wsgi_init django set_encoding request_method vars body self).2.dict.get? name =
        ((django.constructed request_method vars body).get? name).or
          (if name = "_post" ∧ django.ResetsForm request_method vars then none
            else self.dict.get? name)) ∧
      (wsgi_init django set_encoding request_method vars body self).2.allocated =
        if django.ResetsForm request_method vars then self.allocated + 1 else self.allocated := by
  have hown : cache = "_get_cache" ∨ cache = "GET" := by simpa using hprivate
  cases hmethod : upper_method django request_method with
  | error e =>
    simp only [wsgi_init, Py.bind_run, Instance.set_item_run, Py.lift_run, Django.construction,
      Django.constructed, Django.ResetsForm, hmethod, Django.located, true_and, reduceCtorEq,
      and_false, if_false]
    simp only [Dict.get?_set, Dict.get?_empty, ite_some_or, Option.none_or, implies_true,
      and_self]
  | ok method =>
    cases hcharset : django.charset vars with
    | none =>
      simp only [wsgi_init, Py.bind_run, Instance.set_item_run, Py.lift_run, Django.construction,
        Django.constructed, Django.ResetsForm, hmethod, hcharset, Django.located, Django.typed,
        finished, true_and, ne_eq, not_true, and_false, false_and, if_false]
      simp only [Dict.get?_set, Dict.get?_empty, ite_some_or, Option.none_or, implies_true,
        and_self]
    | some charset =>
      simp only [wsgi_init, Py.bind_run, Instance.set_item_run, Py.lift_run, Django.construction,
        Django.constructed, Django.ResetsForm, hmethod, hcharset, Django.located, Django.typed]
      generalize hbefore : Instance.mk _ self.allocated = before
      have henviron : before.dict.get? "environ" =
          some (.environ request_method (django.meta_vars vars) body) := by
        simp [← hbefore]
      have hnone : before.dict.get? cache = none := by
        obtain rfl | rfl := hown <;> simp [← hbefore, hcache]
      have hcount : before.allocated = self.allocated := by rw [← hbefore]
      obtain ⟨hend, hafter, hallocated⟩ := hsets (.str charset) before _ _ _ henviron hnone
      generalize set_encoding (.str charset) before = run at hend hafter hallocated
      obtain ⟨outcome, after⟩ := run
      simp only [hcount] at hend hafter hallocated
      subst hend
      cases hdecoding : django.decoding (django.meta_vars vars) (.str charset) with
      | error e =>
        refine ⟨rfl, fun name => ?_, by simp [hallocated, hdecoding]⟩
        simp only [hafter, hdecoding, ← hbefore, Dict.get?_set, Dict.get?_empty, ite_some_or,
          Option.none_or, reduceCtorEq, and_false, if_false]
      | ok _ =>
        refine ⟨rfl, fun name => ?_, by simp [hallocated, hdecoding]⟩
        simp only [hafter, hdecoding, ← hbefore, finished,
          Dict.get?_set, Dict.get?_empty, ite_some_or, Option.none_or, and_true, ne_eq,
          reduceCtorEq, not_false_eq_true]
        by_cases hpost : name = "_post"
        · subst hpost
          simp
        · simp only [hpost, if_false]

end massless.request
