import Massless.Request.Constructor

open python

namespace massless.request

variable {Obj : Type}

/-- The instance slot that an attribute is kept in. -/
def slot (name : String) : String :=
  if name = "user" then "_user"
  else if name = "upload_handlers" then "_upload_handlers"
  else name

/-- The slots in which `MasslessRequest` keeps its own state. A stock request has
no attributes of these names. -/
def own_slots : List String := ["_core", "_is_django", "_get_cache", "_cookies_cache"]

namespace MasslessRequest

/-- A sequence of assignments to attributes of the request. -/
def assign (django : Django Obj) (urllib : Urllib) (core : RequestCore) :
    List (String × PyVal Obj) → Py (Attrs Obj) Unit
  | [] => pure ()
  | w :: rest => do
    set_attr django urllib core w.1 w.2
    assign django urllib core rest

end MasslessRequest

/-- The value last assigned to what a slot keeps. -/
def last_written : List (String × PyVal Obj) → String → Option (PyVal Obj)
  | [], _ => none
  | w :: rest, name => (last_written rest name).or (if name = slot w.1 then some w.2 else none)

/-- Promotion cannot be told from the writes around it: after all of them it
leaves every slot at the value last written, and promoting anywhere between them
ends alike and gives the same attributes. -/
def PromotionUnobservable (django : Django Obj) (urllib : Urllib) (core : RequestCore)
    (self : Attrs Obj) (ws : List (String × PyVal Obj)) : Prop :=
  let touch := MasslessRequest.ensure_promoted django urllib core
  let assign := MasslessRequest.assign django urllib core
  let late := touch (assign ws self).2
  (∀ name value, last_written ws name = some value → late.2.dict.get? name = some (.py value)) ∧
  ∀ pre post, ws = pre ++ post →
    late.1 = (touch (assign pre self).2).1 ∧
    late.2.dict.Same (assign post (touch (assign pre self).2).2).2.dict

/-- Every write agrees with what Django's constructor stores from the environ:
the method is only written unchanged, every other name that the constructor
stores was last written with that very constant, and no form was written for the
encoding setter to forget. -/
def WritesAgree (django : Django Obj) (urllib : Urllib) (core : RequestCore)
    (ws : List (String × PyVal Obj)) : Prop :=
  ∀ method, core.method_str = some method →
    (∀ value, ("method", value) ∈ ws → value = .str method) ∧
    (∀ name value stored, last_written ws name = some value →
      (django.constructed (.str method) (core.environ_vars urllib) core.body).get? name =
        some stored → stored = .py value) ∧
    (django.ResetsForm (.str method) (core.environ_vars urllib) → last_written ws "_post" = none)

theorem last_written_append (pre post : List (String × PyVal Obj)) (name : String) :
    last_written (pre ++ post) name = (last_written post name).or (last_written pre name) := by
  induction pre with
  | nil => simp [last_written]
  | cons w rest ih => simp only [List.cons_append, last_written, ih, Option.or_assoc]

theorem last_written_eq_some {ws : List (String × PyVal Obj)} {name : String} {value : PyVal Obj}
    (hlast : last_written ws name = some value) : ∃ w ∈ ws, slot w.1 = name ∧ w.2 = value := by
  induction ws with
  | nil => simp [last_written] at hlast
  | cons w rest ih =>
    rw [last_written, Option.or_eq_some_iff] at hlast
    obtain hrest | ⟨-, hhead⟩ := hlast
    · obtain ⟨later, hmem, hwrite⟩ := ih hrest
      exact ⟨later, List.mem_cons_of_mem _ hmem, hwrite⟩
    · rw [Option.ite_none_right_eq_some, Option.some.injEq] at hhead
      exact ⟨w, List.mem_cons_self, hhead.1.symm, hhead.2⟩

theorem slot_notMem_own_slots {name : String} (hname : name ∉ own_slots) :
    slot name ∉ own_slots := by
  simp only [slot]
  split_ifs
  · decide
  · decide
  · exact hname

/-- An assignment stores the value in the slot, unless the attribute has no
setter or the uploads have been processed. -/
theorem MasslessRequest.set_attr_run (django : Django Obj) (urllib : Urllib) (core : RequestCore)
    {name : String} (value : PyVal Obj) (self : Attrs Obj) (hname : name ≠ "encoding") :
    MasslessRequest.set_attr django urllib core name value self =
      if name ∈ read_only ∨ name = "upload_handlers" ∧ (self.dict.get? "_files").isSome then
        (.error (.AttributeError name), self)
      else (.ok (), { self with dict := self.dict.set (slot name) (.py value) }) := by
  simp only [MasslessRequest.set_attr, hname, if_false, slot]
  by_cases huser : name = "user"
  · subst huser
    simp [read_only]
  by_cases hread : name ∈ read_only
  · simp only [huser, hread, if_false, if_true, Py.raise_run, true_or]
  by_cases hupload : name = "upload_handlers"
  · subst hupload
    cases hfiles : self.dict.get? "_files" <;> simp [read_only, hfiles]
  · simp only [huser, hread, hupload, if_false, Instance.set_item_run, false_or, false_and]

/-- Assignments that all go through leave every slot at the value last written,
and they go through on any other instance with the same `_files`. -/
theorem MasslessRequest.assign_run (django : Django Obj) (urllib : Urllib) (core : RequestCore)
    {ws : List (String × PyVal Obj)} {self other : Attrs Obj}
    (hnames : ∀ w ∈ ws, w.1 ≠ "encoding")
    (hfiles : self.dict.get? "_files" = other.dict.get? "_files")
    (hassigned : (MasslessRequest.assign django urllib core ws self).1 = .ok ()) :
    (MasslessRequest.assign django urllib core ws other).1 = .ok () ∧
      ∀ name, (MasslessRequest.assign django urllib core ws other).2.dict.get? name =
        ((last_written ws name).map .py).or (other.dict.get? name) := by
  induction ws generalizing self other with
  | nil => simp [MasslessRequest.assign, last_written]
  | cons w rest ih =>
    have hw : w.1 ≠ "encoding" := hnames w List.mem_cons_self
    simp only [MasslessRequest.assign, Py.bind_run, set_attr_run _ _ _ _ _ hw, hfiles]
      at hassigned ⊢
    by_cases hrefused :
        w.1 ∈ read_only ∨ w.1 = "upload_handlers" ∧ (other.dict.get? "_files").isSome
    · simp only [hrefused, if_true, reduceCtorEq] at hassigned
    · simp only [hrefused, if_false] at hassigned ⊢
      have hstored : (self.dict.set (slot w.1) (.py w.2)).get? "_files" =
          (other.dict.set (slot w.1) (.py w.2)).get? "_files" := by
        simp only [Dict.get?_set, hfiles]
      obtain ⟨hok, hlast⟩ := @ih _ { other with dict := other.dict.set (slot w.1) (.py w.2) }
        (fun later hlater => hnames later (List.mem_cons_of_mem _ hlater)) hstored hassigned
      refine ⟨hok, fun name => ?_⟩
      rw [hlast name, last_written, Dict.get?_set]
      cases last_written rest name with
      | some value => rfl
      | none =>
        simp only [Option.map_none, Option.none_or]
        split <;> rfl

theorem MasslessRequest.assign_append_ok (django : Django Obj) (urllib : Urllib)
    (core : RequestCore) {pre post : List (String × PyVal Obj)} {self : Attrs Obj}
    (hassigned : (MasslessRequest.assign django urllib core (pre ++ post) self).1 = .ok ()) :
    (MasslessRequest.assign django urllib core pre self).1 = .ok () ∧
      (MasslessRequest.assign django urllib core post
        (MasslessRequest.assign django urllib core pre self).2).1 = .ok () := by
  induction pre generalizing self with
  | nil => exact ⟨rfl, hassigned⟩
  | cons w rest ih =>
    simp only [List.cons_append, MasslessRequest.assign, Py.bind_run] at hassigned ⊢
    rcases hset : set_attr django urllib core w.1 w.2 self with ⟨_ | _, stored⟩
    · simp only [hset, reduceCtorEq] at hassigned
    · simp only [hset] at hassigned ⊢
      exact ih hassigned

/-- The first touch of an un-promoted request runs the constructor with the
method the request has by then. -/
theorem MasslessRequest.ensure_promoted_run (django : Django Obj) (urllib : Urllib)
    (core : RequestCore) (self : Attrs Obj) (method : PyVal Obj)
    (hlatch : self.dict.get? "_is_django" = some (.py (.bool false)))
    (hmethod : self.dict.get? "method" = some (.py method))
    (hcache : self.dict.get? "_get_cache" = none) :
    let vars := core.environ_vars urllib
    let touched := MasslessRequest.ensure_promoted django urllib core self
    touched.1 = django.construction method vars ∧
      (∀ name, touched.2.dict.get? name =
        ((django.constructed method vars core.body).get? name).or
          (if name = "_post" ∧ django.ResetsForm method vars then none
            else if name = "_is_django" then some (.py (.bool true))
            else self.dict.get? name)) ∧
      touched.2.allocated =
        if django.ResetsForm method vars then self.allocated + 1 else self.allocated := by
  have hinit := wsgi_init_run django (MasslessRequest.setsEncoding django) method
    (core.environ_vars urllib) core.body
    { self with dict := self.dict.set "_is_django" (.py (.bool true)) } (by simpa using hcache)
    (by simp)
  simpa only [MasslessRequest.ensure_promoted, MasslessRequest.is_django, Py.bind_run,
    Py.gets_run, hlatch, Bool.false_eq_true, if_false, MasslessRequest.promote,
    Instance.set_item_run, Instance.get_item_run, Dict.get?_set, String.reduceEq, hmethod] using
    hinit

/-- The slots of a new request that promotion looks at. -/
theorem MasslessRequest.new_slots {urllib : Urllib} {core : RequestCore} {self : Attrs Obj}
    (hnew : MasslessRequest.new urllib core = some self) :
    ∃ method, core.method_str = some method ∧
      self.dict.get? "method" = some (.py (.str method)) ∧
      self.dict.get? "_is_django" = some (.py (.bool false)) ∧
      self.dict.get? "_get_cache" = none := by
  simp only [MasslessRequest.new, Option.bind_eq_bind, Option.bind_eq_some_iff] at hnew
  obtain ⟨method, hmethod, path, hpath, hself⟩ := hnew
  rw [Option.some.injEq] at hself
  subst hself
  exact ⟨method, hmethod, by simp⟩

/-- The method of a request after assignments. -/
def method_after (method : String) (ws : List (String × PyVal Obj)) : PyVal Obj :=
  (last_written ws "method").getD (.str method)

/-- A request that promotion has not reached: the latch is not set, and no decoded
query string is kept. -/
structure MasslessRequest.Unpromoted (request : Attrs Obj) (method : PyVal Obj) : Prop where
  method : request.dict.get? "method" = some (.py method)
  latch : request.dict.get? "_is_django" = some (.py (.bool false))
  cache : request.dict.get? "_get_cache" = none

/-- Assignments do not promote. -/
theorem MasslessRequest.Unpromoted.assign (django : Django Obj) (urllib : Urllib)
    (core : RequestCore) {self : Attrs Obj} {method : String} {ws : List (String × PyVal Obj)}
    (hself : Unpromoted self (.str method))
    (hnames : ∀ w ∈ ws, w.1 ≠ "encoding" ∧ w.1 ∉ own_slots)
    (hassigned : (MasslessRequest.assign django urllib core ws self).1 = .ok ()) :
    Unpromoted (MasslessRequest.assign django urllib core ws self).2 (method_after method ws) := by
  obtain ⟨-, hlast⟩ := assign_run django urllib core (fun w hw => (hnames w hw).1) rfl hassigned
  have hown : ∀ name ∈ own_slots, last_written ws name = none := by
    intro name hname
    by_contra hwritten
    obtain ⟨value, hvalue⟩ := Option.ne_none_iff_exists'.mp hwritten
    obtain ⟨w, hw, hslot, -⟩ := last_written_eq_some hvalue
    exact slot_notMem_own_slots (hnames w hw).2 (hslot ▸ hname)
  refine ⟨?_, ?_, ?_⟩
  · rw [hlast, hself.method, method_after]
    cases last_written ws "method" <;> rfl
  · rw [hlast, hown _ (by decide), Option.map_none, Option.none_or, hself.latch]
  · rw [hlast, hown _ (by decide), Option.map_none, Option.none_or, hself.cache]

/-- The first touch after assignments to a new request. -/
theorem MasslessRequest.touch_after_writes (django : Django Obj) (urllib : Urllib)
    (core : RequestCore) {self : Attrs Obj} {method : String} {ws : List (String × PyVal Obj)}
    (hmethod : self.dict.get? "method" = some (.py (.str method)))
    (hlatch : self.dict.get? "_is_django" = some (.py (.bool false)))
    (hcache : self.dict.get? "_get_cache" = none)
    (hnames : ∀ w ∈ ws, w.1 ≠ "encoding" ∧ w.1 ∉ own_slots)
    (hassigned : (MasslessRequest.assign django urllib core ws self).1 = .ok ()) :
    let vars := core.environ_vars urllib
    let touched := MasslessRequest.ensure_promoted django urllib core
      (MasslessRequest.assign django urllib core ws self).2
    touched.1 = django.construction (method_after method ws) vars ∧
      ∀ name, touched.2.dict.get? name =
        ((django.constructed (method_after method ws) vars core.body).get? name).or
          (if name = "_post" ∧ django.ResetsForm (method_after method ws) vars then none
            else if name = "_is_django" then some (.py (.bool true))
            else ((last_written ws name).map .py).or (self.dict.get? name)) := by
  obtain ⟨-, hlast⟩ := assign_run django urllib core (fun w hw => (hnames w hw).1) rfl hassigned
  have hafter := Unpromoted.assign django urllib core ⟨hmethod, hlatch, hcache⟩ hnames hassigned
  have htouch := ensure_promoted_run django urllib core (assign django urllib core ws self).2
    (method_after method ws) hafter.latch hafter.method hafter.cache
  refine ⟨htouch.1, fun name => ?_⟩
  rw [htouch.2.1 name, hlast name]

/-- The constructor always stores the environ it was given. -/
theorem Django.constructed_environ (django : Django Obj) (request_method : PyVal Obj)
    (vars : Dict String String) (body : Bytes) :
    (django.constructed request_method vars body).get? "environ" =
      some (.environ request_method (django.meta_vars vars) body) := by
  simp only [Django.constructed]
  split
  · simp [Django.located]
  · simp [Django.located, Django.typed, finished]
  · split <;> simp [Django.located, Django.typed, finished]

/-- The names under which the constructor stores anything. -/
def constructor_slots : List String :=
  ["environ", "path_info", "path", "META", "method", "content_type", "content_params", "_encoding",
    "_stream", "_read_started", "resolver_match"]

theorem Django.constructed_eq_none (django : Django Obj) (request_method : PyVal Obj)
    (vars : Dict String String) (body : Bytes) {name : String} (hname : name ∉ constructor_slots) :
    (django.constructed request_method vars body).get? name = none := by
  simp only [constructor_slots, List.mem_cons, List.not_mem_nil, or_false, not_or] at hname
  simp only [Django.constructed]
  split
  · simp [Django.located, hname]
  · simp [Django.located, Django.typed, finished, hname]
  · split <;> simp [Django.located, Django.typed, finished, hname]

theorem slot_eq_method {name : String} (hslot : slot name = "method") : name = "method" := by
  simp only [slot] at hslot
  split_ifs at hslot
  · simp at hslot
  · simp at hslot
  · exact hslot

/-- The same writes before and after the touch between them. -/
theorem MasslessRequest.writes_around_touch (django : Django Obj) (urllib : Urllib)
    (core : RequestCore) {self : Attrs Obj} {method : String} {pre post : List (String × PyVal Obj)}
    (hmethod : self.dict.get? "method" = some (.py (.str method)))
    (hlatch : self.dict.get? "_is_django" = some (.py (.bool false)))
    (hcache : self.dict.get? "_get_cache" = none)
    (hnames : ∀ w ∈ pre ++ post, w.1 ≠ "encoding" ∧ w.1 ∉ own_slots)
    (hassigned : (MasslessRequest.assign django urllib core (pre ++ post) self).1 = .ok ()) :
    let vars := core.environ_vars urllib
    let touched := MasslessRequest.ensure_promoted django urllib core
      (MasslessRequest.assign django urllib core pre self).2
    touched.1 = django.construction (method_after method pre) vars ∧
      ∀ name, (MasslessRequest.assign django urllib core post touched.2).2.dict.get? name =
        ((last_written post name).map .py).or
          (((django.constructed (method_after method pre) vars core.body).get? name).or
            (if name = "_post" ∧ django.ResetsForm (method_after method pre) vars then none
              else if name = "_is_django" then some (.py (.bool true))
              else ((last_written pre name).map .py).or (self.dict.get? name))) := by
  obtain ⟨hpre, hpost⟩ := assign_append_ok django urllib core hassigned
  have hnames_pre : ∀ w ∈ pre, w.1 ≠ "encoding" ∧ w.1 ∉ own_slots := fun w hw =>
    hnames w (List.mem_append_left _ hw)
  obtain ⟨hend, htouched⟩ := touch_after_writes django urllib core hmethod hlatch hcache hnames_pre
    hpre
  refine ⟨hend, fun name => ?_⟩
  have hfiles : (assign django urllib core pre self).2.dict.get? "_files" =
      (ensure_promoted django urllib core (assign django urllib core pre self).2).2.dict.get?
        "_files" := by
    obtain ⟨-, hlast⟩ := assign_run django urllib core (fun w hw => (hnames_pre w hw).1) rfl hpre
    rw [htouched, hlast, django.constructed_eq_none _ _ _ (by decide)]
    simp
  obtain ⟨-, hlast⟩ := assign_run django urllib core
    (fun w hw => (hnames w (List.mem_append_right _ hw)).1) hfiles hpost
  rw [hlast name, htouched name]

/-- If promotion cannot be observed, no write touched a dictionary or object that
the constructor makes, so the environ tells the method at each touch. -/
theorem WritesAgree.of_unobservable {django : Django Obj} {urllib : Urllib} {core : RequestCore}
    {self : Attrs Obj} {ws : List (String × PyVal Obj)}
    (hnew : MasslessRequest.new urllib core = some self)
    (hnames : ∀ w ∈ ws, w.1 ≠ "encoding" ∧ w.1 ∉ own_slots)
    (hassigned : (MasslessRequest.assign django urllib core ws self).1 = .ok ())
    (hunobservable : PromotionUnobservable django urllib core self ws) :
    WritesAgree django urllib core ws := by
  obtain ⟨hkept, hsplit⟩ := hunobservable
  intro method hcore
  obtain ⟨_, hstr, hmethod, hlatch, hcache⟩ := MasslessRequest.new_slots hnew
  obtain rfl := Option.some.inj (hcore.symm.trans hstr)
  obtain ⟨-, hlate⟩ := MasslessRequest.touch_after_writes django urllib core hmethod hlatch hcache
    hnames hassigned
  have hno_environ : last_written ws "environ" = none := by
    by_contra hwritten
    obtain ⟨value, hvalue⟩ := Option.ne_none_iff_exists'.mp hwritten
    have hlost := hkept "environ" value hvalue
    rw [hlate, django.constructed_environ] at hlost
    simp at hlost
  -- The environ after a touch that follows `pre` holds the method of that moment.
  have hmoment : ∀ pre post, ws = pre ++ post →
      method_after method pre = method_after method ws := by
    intro pre post hws
    subst hws
    obtain ⟨-, hsame⟩ := hsplit pre post rfl
    obtain ⟨-, hearly⟩ := MasslessRequest.writes_around_touch django urllib core hmethod hlatch
      hcache hnames hassigned
    rw [last_written_append, Option.or_eq_none_iff] at hno_environ
    have henviron := hsame "environ"
    rw [hlate, hearly, hno_environ.1, django.constructed_environ, django.constructed_environ]
      at henviron
    simp only [Option.some_or, Option.map_none, Option.none_or, Option.some.injEq,
      Val.environ.injEq] at henviron
    exact henviron.1.symm
  have hstart : method_after method ws = .str method := (hmoment [] ws rfl).symm
  refine ⟨fun value hvalue => ?_, fun name value stored hlast hstored => ?_, fun hresets => ?_⟩
  · obtain ⟨pre, post, hws⟩ := List.append_of_mem hvalue
    have hpre := hmoment (pre ++ [("method", value)]) post (by simp [hws])
    rw [hstart, method_after, last_written_append] at hpre
    simpa [last_written, slot] using hpre
  · have hfinal := hkept name value hlast
    rw [hlate, hstart, hstored] at hfinal
    simpa using hfinal
  · by_contra hwritten
    obtain ⟨value, hvalue⟩ := Option.ne_none_iff_exists'.mp hwritten
    have hlost := hkept "_post" value hvalue
    rw [hlate, hstart, django.constructed_eq_none _ _ _ (by decide)] at hlost
    simp [hresets] at hlost

/-- If every write agrees with the constructor, promotion can come anywhere. -/
theorem WritesAgree.unobservable {django : Django Obj} {urllib : Urllib} {core : RequestCore}
    {self : Attrs Obj} {ws : List (String × PyVal Obj)}
    (hnew : MasslessRequest.new urllib core = some self)
    (hnames : ∀ w ∈ ws, w.1 ≠ "encoding" ∧ w.1 ∉ own_slots)
    (hassigned : (MasslessRequest.assign django urllib core ws self).1 = .ok ())
    (hagree : WritesAgree django urllib core ws) :
    PromotionUnobservable django urllib core self ws := by
  obtain ⟨method, hstr, hmethod, hlatch, hcache⟩ := MasslessRequest.new_slots hnew
  obtain ⟨hmethods, hvalues, hform⟩ := hagree method hstr
  obtain ⟨hend, hlate⟩ := MasslessRequest.touch_after_writes django urllib core hmethod hlatch
    hcache hnames hassigned
  have hafter : ∀ pre, (∀ w ∈ pre, w ∈ ws) → method_after method pre = .str method := by
    intro pre hpre
    rw [method_after]
    cases hlast : last_written pre "method" with
    | none => rfl
    | some value =>
      obtain ⟨w, hw, hslot, rfl⟩ := last_written_eq_some hlast
      exact hmethods w.2 (slot_eq_method hslot ▸ hpre w hw)
  rw [hafter ws fun w hw => hw] at hend hlate
  have hkept : ∀ name value, last_written ws name = some value →
      (MasslessRequest.ensure_promoted django urllib core
        (MasslessRequest.assign django urllib core ws self).2).2.dict.get? name =
          some (.py value) := by
    intro name value hlast
    rw [hlate]
    cases hstored : (django.constructed (.str method) (core.environ_vars urllib) core.body).get?
        name with
    | some stored => simp [hvalues name value stored hlast hstored]
    | none =>
      have hpost : ¬(name = "_post" ∧
          django.ResetsForm (.str method) (core.environ_vars urllib)) := by
        rintro ⟨rfl, hresets⟩
        simp [hform hresets] at hlast
      have howned : name ≠ "_is_django" := by
        rintro rfl
        obtain ⟨w, hw, hslot, -⟩ := last_written_eq_some hlast
        exact slot_notMem_own_slots (hnames w hw).2 (by simp [hslot, own_slots])
      simp [hpost, howned, hlast]
  refine ⟨hkept, fun pre post hws => ?_⟩
  subst hws
  obtain ⟨hend_pre, hearly⟩ := MasslessRequest.writes_around_touch django urllib core hmethod
    hlatch hcache hnames hassigned
  rw [hafter pre fun w hw => List.mem_append_left _ hw] at hend_pre hearly
  refine ⟨hend.trans hend_pre.symm, fun name => ?_⟩
  rw [hearly]
  cases hlast : last_written post name with
  | some value =>
    rw [hkept name value (by rw [last_written_append, hlast, Option.some_or])]
    rfl
  | none => rw [hlate, last_written_append, hlast, Option.none_or, Option.map_none, Option.none_or]

/-- Promotion keeps what was written to the request before it, wherever it comes
among the writes, exactly when the writes agree with what Django's constructor
stores anyway. -/
theorem promotion_unobservable_iff (django : Django Obj) (urllib : Urllib) (core : RequestCore)
    {self : Attrs Obj} {ws : List (String × PyVal Obj)}
    (hnew : MasslessRequest.new urllib core = some self)
    (hnames : ∀ w ∈ ws, w.1 ≠ "encoding" ∧ w.1 ∉ own_slots)
    (hassigned : (MasslessRequest.assign django urllib core ws self).1 = .ok ()) :
    PromotionUnobservable django urllib core self ws ↔ WritesAgree django urllib core ws :=
  ⟨WritesAgree.of_unobservable hnew hnames hassigned,
    WritesAgree.unobservable hnew hnames hassigned⟩

/-- Django on ASCII requests without a content type. Decoded objects are texts. -/
def ascii_django : Django String where
  get_script_name _ := ""
  get_path_info vars := (vars.get? "PATH_INFO").getD "/"
  str_upper text := String.ofList (text.toList.map Char.toUpper)
  parse_header_parameters line := (line, .empty)
  codecs_lookup name := name = "utf-8"
  query_dict vars _ := .ok ((vars.get? "QUERY_STRING").getD "")
  empty_query_dict _ := ""
  parse_cookie vars := .ok ((vars.get? "HTTP_COOKIE").getD "")
  load_post _ _ _ := .loaded ""

/-- The standard library on paths without percent signs. -/
def ascii_urllib : Urllib where
  unquote text := text
  unquote_to_bytes text := text.toList.map fun c => UInt8.ofNat c.toNat
  forwarded_overrides _ _ := (none, none)

/-- `GET /item` -/
def get_item_core : RequestCore :=
  .create (ascii "GET") (some (ascii "/item")) [] [] [] none none

/-- A session set by a middleware, and the path written back unchanged, survive
promotion. -/
theorem promotion_unobservable_iff_session : ∃ self,
    MasslessRequest.new ascii_urllib get_item_core = some self ∧
    PromotionUnobservable ascii_django ascii_urllib get_item_core self
      [("session", .object 7 "session"), ("path_info", .str "/item")] := by
  refine ⟨_, rfl, (promotion_unobservable_iff ascii_django ascii_urllib get_item_core rfl
    (by decide) rfl).mpr fun method hmethod => ⟨by simp, fun name value stored hlast hstored => ?_,
      fun _ => rfl⟩⟩
  obtain rfl : "GET" = method := Option.some.inj hmethod
  simp only [last_written, slot, String.reduceEq, if_false, Option.none_or] at hlast
  by_cases hpath : name = "path_info"
  · subst hpath
    cases hlast
    exact (Option.some.inj hstored).symm
  · by_cases hsession : name = "session"
    · subst hsession
      cases hstored
    · simp [hpath, hsession] at hlast

/-- The match that the dispatcher stored is gone after the first touch of a
Django attribute. -/
theorem resolver_match_lost : ∃ self,
    MasslessRequest.new ascii_urllib get_item_core = some self ∧
    ¬PromotionUnobservable ascii_django ascii_urllib get_item_core self
      [("resolver_match", .object 7 "match")] := by
  refine ⟨_, rfl, fun hunobservable => ?_⟩
  have hkept := hunobservable.1 "resolver_match" (.object 7 "match") rfl
  cases hkept

end massless.request
