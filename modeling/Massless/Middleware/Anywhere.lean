import Massless.Middleware.Hooks
import Massless.Chain.Transparent

open python
open massless.chain

namespace massless.middleware

variable {W Req Args : Type} (settings : Settings) (http : Http W Req) (request : Req)
  (given : Returned HttpResponse)

/-- The classes whose hooks are here. -/
def Registered.pure : Registered → Bool
  | .XFrameOptionsMiddleware | .SecurityMiddleware | .ConditionalGetMiddleware
  | .CommonMiddleware | .GZipMiddleware => true
  | .SessionMiddleware | .AuthenticationMiddleware | .MessageMiddleware | .CsrfViewMiddleware =>
    false

theorem read_attr_anywhere (name : String) : (read_attr name given : Placed W _).Anywhere := by
  cases given <;> rfl

theorem Http.host_anywhere : (http.host request).Anywhere := by
  unfold Http.host
  cases http.get_host request <;> rfl

theorem XFrameOptionsMiddleware.process_response_anywhere :
    (process_response settings http given).Anywhere := by
  refine (read_attr_anywhere given "get").bind fun response => ?_
  split
  · exact .pure _
  split
  · exact .pure _
  · exact (Placed.Anywhere.lift _).bind fun response => .pure _

namespace SecurityMiddleware

theorem process_request_anywhere : (process_request settings http request).Anywhere := by
  unfold process_request
  split
  · refine Placed.Anywhere.bind ?_ fun host => (Placed.Anywhere.lift _).bind fun response => .pure _
    unfold redirect_host
    split
    · exact .pure _
    · exact http.host_anywhere request
  · exact .pure _

theorem set_default_anywhere (name attr : String) (value : Option String) :
    (set_default http name attr value given).Anywhere := by
  cases value with
  | none => exact .pure _
  | some value =>
    refine (read_attr_anywhere given attr).bind fun response => ?_
    exact (Placed.Anywhere.lift _).bind fun response => .pure _

theorem process_response_anywhere : (process_response settings http request given).Anywhere := by
  have hstrict : (strict_transport settings http request given).Anywhere := by
    unfold strict_transport
    split
    · cases given with
      | value response => exact (Placed.Anywhere.lift _).bind fun response => .pure _
      | none => exact .raise _
      | coroutine => exact .raise _
    · exact .pure _
  refine hstrict.bind fun first => ?_
  refine (set_default_anywhere http first _ _ _).bind fun second => ?_
  exact (set_default_anywhere http second _ _ _).bind fun third =>
    set_default_anywhere http third _ _ _

end SecurityMiddleware

theorem ConditionalGetMiddleware.process_response_anywhere :
    (process_response http request given).Anywhere := by
  unfold process_response
  split
  · exact .pure _
  · refine (read_attr_anywhere given "get").bind fun response => ?_
    dsimp only
    split <;> exact .pure _

/-- Where `APPEND_SLASH` makes them ask for it, the event loop does not refuse what the URLconf is
asked: no converter of it queries the database. -/
def UrlconfAnywhere : Prop :=
  settings.APPEND_SLASH = true → ∀ path urlconf, (http.is_valid_path path urlconf).Anywhere

namespace CommonMiddleware

variable {settings http} (hurlconf : UrlconfAnywhere settings http)
include hurlconf

theorem should_redirect_with_slash_anywhere :
    (should_redirect_with_slash settings http request).Anywhere := by
  unfold should_redirect_with_slash
  split
  · rename_i happend
    have hvalid := hurlconf happend.1
    refine Placed.Anywhere.bind rfl fun urlconf => (hvalid _ urlconf).bind fun valid => ?_
    split
    · exact .pure _
    · exact (hvalid _ urlconf).bind fun found => .pure _
  · exact .pure _

omit hurlconf in
theorem get_full_path_with_slash_anywhere :
    (get_full_path_with_slash settings http request).Anywhere := by
  unfold get_full_path_with_slash
  dsimp only
  split
  · exact (http.host_anywhere request).bind fun host => .raise _
  · exact .pure _

theorem process_request_anywhere : (process_request settings http request).Anywhere := by
  unfold process_request
  split
  · exact .raise _
  refine (http.host_anywhere request).bind fun host => ?_
  split
  · refine (should_redirect_with_slash_anywhere request hurlconf).bind fun with_slash => ?_
    refine Placed.Anywhere.bind ?_ fun path =>
      (Placed.Anywhere.lift _).bind fun response => .pure _
    cases with_slash with
    | true => exact get_full_path_with_slash_anywhere request
    | false => exact .pure _
  · exact .pure _

theorem process_response_anywhere : (process_response settings http request given).Anywhere := by
  refine (read_attr_anywhere given "status_code").bind fun response => ?_
  refine Placed.Anywhere.bind ?_ fun response => (Placed.Anywhere.lift _).bind fun _ => .pure _
  refine Placed.Anywhere.bind ?_ fun with_slash => ?_
  · unfold lacks_slash
    split
    · exact should_redirect_with_slash_anywhere request hurlconf
    · exact .pure _
  · split
    · exact (get_full_path_with_slash_anywhere request).bind fun path => .lift _
    · exact .pure _

end CommonMiddleware

theorem GZipMiddleware.process_response_anywhere :
    (process_response http request given).Anywhere := by
  refine (read_attr_anywhere given "streaming").bind fun response => ?_
  split
  · exact .pure _
  split
  · exact .pure _
  dsimp only
  split
  · refine Placed.Anywhere.bind ?_ fun sent => .pure _
    unfold compressed
    split
    · exact Placed.Anywhere.bind rfl fun chunks => .lift _
    · refine Placed.Anywhere.bind rfl fun coded => ?_
      split
      · exact .pure _
      · exact (Placed.Anywhere.lift _).bind fun response => .lift _
  · exact .pure _

/-- The hooks of the five classes do the same on the event loop and in a thread. -/
theorem Builtins.hooks_anywhere (builtins : Builtins W Req HttpResponse Args)
    {settings : Settings} {http : Http W Req} (hurlconf : UrlconfAnywhere settings http)
    {name : Registered} (hpure : name.pure = true) :
    (((builtins.with_hooks settings http).hooks name).on_request request).Anywhere ∧
      (((builtins.with_hooks settings http).hooks name).on_response request given).Anywhere := by
  cases name with
  | XFrameOptionsMiddleware =>
    exact ⟨rfl, XFrameOptionsMiddleware.process_response_anywhere settings http given⟩
  | SecurityMiddleware =>
    exact ⟨SecurityMiddleware.process_request_anywhere settings http request,
      SecurityMiddleware.process_response_anywhere settings http request given⟩
  | ConditionalGetMiddleware =>
    exact ⟨rfl, ConditionalGetMiddleware.process_response_anywhere http request given⟩
  | CommonMiddleware =>
    exact ⟨CommonMiddleware.process_request_anywhere request hurlconf,
      CommonMiddleware.process_response_anywhere request given hurlconf⟩
  | GZipMiddleware => exact ⟨rfl, GZipMiddleware.process_response_anywhere http request given⟩
  | SessionMiddleware => cases hpure
  | AuthenticationMiddleware => cases hpure
  | MessageMiddleware => cases hpure
  | CsrfViewMiddleware => cases hpure

theorem Registered.pure_view (builtins : Builtins W Req HttpResponse Args) {name : Registered}
    (hpure : name.pure = true) : (builtins.hooks name).process_view = none := by
  cases name with
  | CsrfViewMiddleware => cases hpure
  | _ => rfl

/-- Hooks that are the same in both places make the same calls. -/
theorem ClassHooks.calls_same {R : Type} {hooks : ClassHooks W Req R Args}
    (hrequest : ∀ request, (hooks.on_request request).Anywhere)
    (hresponse : ∀ request response, (hooks.on_response request response).Anywhere) (path : String)
    (fast_mode stock_mode : Bool) (get_response : Answer W Req R) :
    (fast_middleware path hooks).call fast_mode get_response =
      (stock_middleware path hooks).call stock_mode get_response := by
  funext request
  have hafter : (fun response => (hooks.on_response request response).on_loop) =
      fun response => (hooks.on_response request response).in_thread :=
    funext fun response => hresponse request response
  simp only [fast_middleware, stock_middleware, or_else_eq, hafter]
  rw [hrequest request]

namespace Site

variable (site : Site W Req HttpResponse Args) {settings http} {paths : List String}

/-- Every registered class of the list is one of the five. -/
def PureList (paths : List String) : Prop :=
  ∀ path ∈ paths, ∀ name, REGISTRY.lookup path = some name → name.pure = true

/-- A substitute of one of the five classes is called as the class is. -/
theorem pure_calls_same (hurlconf : UrlconfAnywhere settings http) {path : String}
    {name : Registered} (hname : REGISTRY.lookup path = some name) (hpure : name.pure = true)
    (fast_mode stock_mode : Bool) (get_response : Answer W Req HttpResponse) :
    ((site.with_hooks settings http).load true path).call fast_mode get_response =
      ((site.with_hooks settings http).load false path).call stock_mode get_response := by
  rw [((site.with_hooks settings http).load_registered hname).1,
    ((site.with_hooks settings http).load_registered hname).2]
  exact ClassHooks.calls_same
    (fun request => (site.builtins.hooks_anywhere request .none hurlconf hpure).1)
    (fun request given => (site.builtins.hooks_anywhere request given hurlconf hpure).2) path _ _ _

/-- Around the same core the layers make the same of every request. -/
theorem pure_onions_same (hurlconf : UrlconfAnywhere settings http)
    (django : Django W Req HttpResponse Args) (core : Answer W Req HttpResponse)
    (hpure : PureList paths) (hsteady : (site.with_hooks settings http).Steady paths) :
    django.onion core (paths.map ((site.with_hooks settings http).load true)) =
      django.onion core (paths.map ((site.with_hooks settings http).load false)) := by
  induction paths with
  | nil => rfl
  | cons path rest ih =>
    have hinner := ih (fun path hpath => hpure path (List.mem_cons_of_mem _ hpath)) hsteady.1
    simp only [List.map_cons, Django.onion, hinner]
    congr 1
    cases hname : REGISTRY.lookup path with
    | some name =>
      exact site.pure_calls_same hurlconf hname (hpure path List.mem_cons_self name hname) _ _ _
    | none => rw [(site.with_hooks settings http).steady_call hsteady hname]

/-- None of the five has a view hook, so the cores are the same. -/
theorem pure_cores_same (django : Django W Req HttpResponse Args) (hpure : PureList paths) :
    django.core (paths.map ((site.with_hooks settings http).load true)) =
      django.core (paths.map ((site.with_hooks settings http).load false)) := by
  have hview : (paths.map ((site.with_hooks settings http).load true)).filterMap
        Middleware.view_hook =
      (paths.map ((site.with_hooks settings http).load false)).filterMap Middleware.view_hook := by
    rw [List.filterMap_map, List.filterMap_map]
    refine List.filterMap_congr fun path hpath => ?_
    rw [Function.comp_apply, Function.comp_apply]
    cases hname : REGISTRY.lookup path with
    | some name =>
      have hnone := Registered.pure_view (site.with_hooks settings http).builtins
        (hpure path hpath name hname)
      rw [((site.with_hooks settings http).load_registered hname).1,
        ((site.with_hooks settings http).load_registered hname).2, fast_view_hook, stock_view_hook,
        hnone]
      rfl
    | none =>
      rw [(site.with_hooks settings http).load_other hname,
        (site.with_hooks settings http).load_other hname]
  unfold Django.core Django.viewed Django.rendered Django.handled
  rw [(site.with_hooks settings http).template_hooks_eq,
    (site.with_hooks settings http).exception_hooks_eq, hview]

/-- `MASSLESS_FAST_MIDDLEWARE` is transparent to a list whose registered classes are among the
five, whatever the other classes are: the chains do the same from every state, as long as the event
loop refuses nothing that the URLconf is asked, and an other class that is built in another mode
does the same in both. -/
theorem pure_substitution_transparent (hurlconf : UrlconfAnywhere settings http)
    {MIDDLEWARE : List String} (hpure : PureList MIDDLEWARE)
    (hsteady : (site.with_hooks settings http).Steady
      ((site.with_hooks settings http).kept MIDDLEWARE))
    (django : Django W Req HttpResponse Args) (request : Req) :
    (site.with_hooks settings http).run true MIDDLEWARE django request =
      (site.with_hooks settings http).run false MIDDLEWARE django request := by
  have hkept : PureList ((site.with_hooks settings http).kept MIDDLEWARE) := fun path hpath =>
    hpure path (List.mem_of_mem_filter hpath)
  unfold run
  rw [run_build, run_build, refused_eq, used_eq, used_eq, site.pure_cores_same django hkept,
    site.pure_onions_same hurlconf django _ hkept hsteady]

theorem pure_substitution_transparent_page :
    (page_site.with_hooks page_settings page_http).run true
        ["django.middleware.gzip.GZipMiddleware", "project.middleware.Timing",
          "django.middleware.common.CommonMiddleware"] page_django () =
      (page_site.with_hooks page_settings page_http).run false
        ["django.middleware.gzip.GZipMiddleware", "project.middleware.Timing",
          "django.middleware.common.CommonMiddleware"] page_django () := by
  have hgzip : REGISTRY.lookup "django.middleware.gzip.GZipMiddleware" = some .GZipMiddleware := by
    decide +kernel
  have hother : REGISTRY.lookup "project.middleware.Timing" = none := by decide +kernel
  have hcommon : REGISTRY.lookup "django.middleware.common.CommonMiddleware" =
      some .CommonMiddleware := by decide +kernel
  refine Site.pure_substitution_transparent page_site (fun _ _ _ => .pure _) ?_
    (Site.steady_of_blind (fun _ => rfl) _) page_django ()
  intro path hpath name hname
  simp only [List.mem_cons, List.not_mem_nil, or_false] at hpath
  obtain rfl | rfl | rfl := hpath
  · rw [hgzip] at hname
    cases hname
    rfl
  · rw [hother] at hname
    cases hname
  · rw [hcommon] at hname
    cases hname
    rfl

end Site

end massless.middleware
