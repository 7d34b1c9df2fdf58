import HivePoint.Native.VersionsService
import HivePoint.Spec.Statements

/-!
# What the catalogue reveals

Two databases with the same contents of what is published, and with the same rows otherwise up
to their contents, look the same to every viewer who is neither an admin nor the owner.

## Key results

- `SamePublic.product_cases`, `SamePublic.version_cases`: what is found in both of them
- `catalogue_answers_eq`: the answers to a viewer are the same
-/

namespace HivePoint

open Prog

/-! ### Databases that differ in what is not public -/

/-- Is there a product on sale under this id? -/
def World.isPublished (w : World) (productId : Id) : Bool :=
  (w.products.find? productId).any (·.status = .published)

/-- The same products, versions and plans by id, owner and status, and the same contents of what
    is public of them. The order of the rows decides between those created in one instant, of
    which the queries leave the order open. -/
structure SamePublic (w w' : World) : Prop where
  products : ∀ id, (w.products.find? id).map (fun row => (row.ownerId, row.status)) =
    (w'.products.find? id).map fun row => (row.ownerId, row.status)
  versions : ∀ id, (w.apiVersions.find? id).map (fun row => (row.productId, row.status)) =
    (w'.apiVersions.find? id).map fun row => (row.productId, row.status)
  plans : ∀ id, (w.plans.find? id).map (fun row => (row.productId, row.isActive)) =
    (w'.plans.find? id).map fun row => (row.productId, row.isActive)
  publicProducts : w.products.rows.filter (·.status = .published) =
    w'.products.rows.filter (·.status = .published)
  publicVersions :
    w.apiVersions.rows.filter (fun row => row.status = .published && w.isPublished row.productId) =
      w'.apiVersions.rows.filter fun row => row.status = .published && w'.isPublished row.productId
  publicPlans : w.plans.rows.filter (fun row => row.isActive && w.isPublished row.productId) =
    w'.plans.rows.filter fun row => row.isActive && w'.isPublished row.productId

/-- The viewer is neither an admin nor the owner of the product. -/
def IsOutsider (viewer : Option AuthenticatedUser) (product : ApiProduct) : Prop :=
  ∀ user, viewer = some user → user.role ≠ .admin ∧ user.id ≠ product.ownerId

/-- An outsider is neither owner nor administrator. -/
theorem IsOutsider.isOwnerOrAdmin {viewer : Option AuthenticatedUser} {product : ApiProduct}
    (h : IsOutsider viewer product) : isOwnerOrAdmin product viewer = false := by
  cases viewer with
  | none => rfl
  | some user => simp [HivePoint.isOwnerOrAdmin, h user rfl]

/-- Who is an outsider depends on the product's owner alone. -/
theorem IsOutsider.congr {viewer : Option AuthenticatedUser} {product product' : ApiProduct}
    (h : IsOutsider viewer product) (howner : product'.ownerId = product.ownerId) :
    IsOutsider viewer product' := fun user huser => howner ▸ h user huser

/-- A version is found with the product it belongs to. -/
private theorem findVersionWithProduct_eq (w : World) (id : Id) :
    w.findVersionWithProduct id = (w.apiVersions.find? id).bind fun version =>
      (w.products.find? version.productId).map fun product => (version, product) := by
  simp only [World.findVersionWithProduct, Option.map_eq_bind]
  rfl

/-- What belongs to a product on sale is selected from what is public. -/
private theorem filter_public {ρ : Type} {q : ρ → Bool} {productId : ρ → Id} {P : Id → Bool}
    {id : Id} (rows : List ρ) (hid : P id = true) :
    (rows.filter fun row => productId row = id && q row) =
      (rows.filter fun row => q row && P (productId row)).filter fun row => productId row = id := by
  rw [List.filter_filter]
  refine List.filter_congr fun row _ => ?_
  by_cases hrow : productId row = id
  · simp [hrow, hid]
  · simp [hrow]

namespace SamePublic

variable {w w' : World} (h : SamePublic w w')
include h

/-- The same products are published. -/
private theorem isPublished (id : Id) : w'.isPublished id = w.isPublished id := by
  have hproduct := h.products id
  simp only [World.isPublished]
  cases hrow : w.products.find? id <;> cases hrow' : w'.products.find? id <;>
    simp_all

/-- A product on sale is the same in both databases. -/
private theorem find?_published {id : Id} {product : ApiProduct}
    (hfound : w.products.find? id = some product) (hpublished : product.status = .published) :
    w'.products.find? id = some product := by
  have hmem : product ∈ w.products.rows.filter (·.status = .published) :=
    List.mem_filter.mpr ⟨Table.mem_of_find? hfound, decide_eq_true hpublished⟩
  rw [h.publicProducts] at hmem
  rw [← Table.key_of_find? hfound]
  exact Table.find?_key (List.mem_filter.mp hmem).1

/-- A published version of a product on sale is the same in both databases. -/
private theorem find?_publicVersion {id : Id} {version : ApiVersion}
    (hfound : w.apiVersions.find? id = some version) (hpublished : version.status = .published)
    (hproduct : w.isPublished version.productId = true) :
    w'.apiVersions.find? id = some version := by
  have hmem : version ∈ w.apiVersions.rows.filter fun row =>
      row.status = .published && w.isPublished row.productId :=
    List.mem_filter.mpr ⟨Table.mem_of_find? hfound, by simp [hpublished, hproduct]⟩
  rw [h.publicVersions] at hmem
  rw [← Table.key_of_find? hfound]
  exact Table.find?_key (List.mem_filter.mp hmem).1

/-- What both databases have under the id of a product. -/
theorem product_cases (id : Id) :
    (w.products.find? id = none ∧ w'.products.find? id = none) ∨
    (∃ product, w.products.find? id = some product ∧ w'.products.find? id = some product ∧
      product.status = .published) ∨
    ∃ product product', w.products.find? id = some product ∧ w'.products.find? id = some product' ∧
      product'.ownerId = product.ownerId ∧ product.status ≠ .published ∧
      product'.status ≠ .published := by
  have hproduct := h.products id
  cases hrow : w.products.find? id with
  | none =>
    rw [hrow] at hproduct
    exact .inl ⟨rfl, Option.map_eq_none_iff.mp hproduct.symm⟩
  | some product =>
    rw [hrow] at hproduct
    obtain ⟨product', hrow', hsame⟩ := Option.map_eq_some_iff.mp hproduct.symm
    obtain ⟨howner, hstatus⟩ := Prod.mk.inj hsame
    by_cases hpublished : product.status = .published
    · exact .inr (.inl ⟨product, rfl, h.find?_published hrow hpublished, hpublished⟩)
    · exact .inr (.inr ⟨product, product', rfl, hrow', howner, hpublished, hstatus ▸ hpublished⟩)

/-- What both databases have under the id of a version: public in both of them and the same, or
    public in neither. -/
theorem version_cases (id : Id) :
    (w.findVersionWithProduct id = none ∧ w'.findVersionWithProduct id = none) ∨
    (∃ version product, w.findVersionWithProduct id = some (version, product) ∧
      w'.findVersionWithProduct id = some (version, product)) ∨
    ∃ version product version' product', w.findVersionWithProduct id = some (version, product) ∧
      w'.findVersionWithProduct id = some (version', product') ∧
      product'.ownerId = product.ownerId ∧
      ¬(product.status = .published ∧ version.status = .published) ∧
      ¬(product'.status = .published ∧ version'.status = .published) := by
  simp only [findVersionWithProduct_eq]
  have hversion := h.versions id
  -- the version stands in both worlds with its status, so its product decides
  cases hrow : w.apiVersions.find? id with
  | none =>
    rw [hrow] at hversion
    rw [Option.map_eq_none_iff.mp hversion.symm]
    exact .inl ⟨rfl, rfl⟩
  | some version =>
    rw [hrow] at hversion
    obtain ⟨version', hrow', hsame⟩ := Option.map_eq_some_iff.mp hversion.symm
    obtain ⟨hproductId, hstatus⟩ := Prod.mk.inj hsame
    simp only [hrow', Option.bind_some, hproductId]
    rcases h.product_cases version.productId with ⟨hnone, hnone'⟩ | ⟨product, hfound, hfound',
      hpublic⟩ |
      ⟨product, product', hfound, hfound', howner, hhidden, hhidden'⟩
    · exact .inl ⟨by rw [hnone]; rfl, by rw [hnone']; rfl⟩
    -- a public product with a public version reads the same, else both are hidden
    · rw [hfound, hfound']
      by_cases hpublished : version.status = .published
      · obtain rfl := Option.some.inj (hrow'.symm.trans (h.find?_publicVersion hrow hpublished
          (by simp [World.isPublished, hfound, hpublic])))
        exact .inr (.inl ⟨_, _, rfl, rfl⟩)
      · exact .inr (.inr ⟨_, _, _, _, rfl, rfl, rfl, fun hboth => hpublished hboth.2,
          fun hboth => hpublished (hstatus ▸ hboth.2)⟩)
    · rw [hfound, hfound']
      exact .inr (.inr ⟨_, _, _, _, rfl, rfl, howner, fun hboth => hhidden hboth.1,
        fun hboth => hhidden' hboth.1⟩)

/-- The published versions of a product on sale. -/
private theorem filter_versions {productId : Id} (hpublished : w.isPublished productId = true) :
    (w'.apiVersions.rows.filter fun row => row.productId = productId && row.status = .published) =
      w.apiVersions.rows.filter fun row => row.productId = productId && row.status =
        .published := by
  rw [filter_public (P := w.isPublished) w.apiVersions.rows hpublished, h.publicVersions,
    filter_public (P := w'.isPublished) _ ((h.isPublished productId).trans hpublished)]

/-- A published product has the same published version. -/
theorem findPublishedVersion {productId : Id} (hpublished : w.isPublished productId = true) :
    w'.findPublishedVersion productId = w.findPublishedVersion productId := by
  simp only [World.findPublishedVersion, ← List.head?_filter]
  rw [h.filter_versions hpublished]

/-- The active plans of a product on sale. -/
private theorem filter_plans {productId : Id} (hpublished : w.isPublished productId = true) :
    (w'.plans.rows.filter fun row => row.productId = productId && row.isActive) =
      w.plans.rows.filter fun row => row.productId = productId && row.isActive := by
  rw [filter_public (P := w.isPublished) w.plans.rows hpublished, h.publicPlans,
    filter_public (P := w'.isPublished) _ ((h.isPublished productId).trans hpublished)]

/-- The list of published products looks at nothing else. -/
private theorem filter_products (containsInsensitive : String → String → Bool)
    (query : ListProductsQuery) :
    w'.products.rows.filter (query.where containsInsensitive) =
      w.products.rows.filter (query.where containsInsensitive) := by
  have hwhere : ∀ rows : List ApiProduct, rows.filter (query.where containsInsensitive) =
      (rows.filter (·.status = .published)).filter (query.where containsInsensitive) := by
    intro rows
    rw [List.filter_filter]
    refine List.filter_congr fun row _ => (Bool.and_eq_left_iff_imp.mpr fun hmatches => ?_).symm
    simp only [ListProductsQuery.where, Bool.and_eq_true] at hmatches
    exact hmatches.1.1.1
  rw [hwhere, hwhere w.products.rows, h.publicProducts]

end SamePublic

/-! ### The answers -/

/-- Two programs that begin with a read give the same answers if what is left of them does. -/
private theorem feed_read_congr {α β γ : Type} {f : World → α} {f' : World → β} {g : α → Op γ}
    {g' : β → Op γ} {w w' : World} (h : ∀ es, ((g (f w)).feed es w).1 = ((g' (f' w')).feed es w').1)
    (es : List Env) :
    ((read f >>= g).feed es w).1 = ((read f' >>= g').feed es w').1 := by
  cases es with
  | nil => rfl
  | cons env es =>
    simp only [feed_bind, read, feed_stmt_cons]
    cases env.dbError with
    | some m => rfl
    | none => exact h es

/-- Reads that find the same answer the same. -/
private theorem feed_read_eq {α : Type} {f : World → α} {w w' : World} (h : f w = f w')
    (es : List Env) :
    ((read f).feed es w).1 = ((read f).feed es w').1 := by
  cases es with
  | nil => rfl
  | cons env es =>
    simp only [read, feed_stmt_cons]
    cases env.dbError with
    | some m => rfl
    | none => exact congrArg (fun a => some (Except.ok a)) h

section Answers

variable {w w' : World} (h : SamePublic w w') {viewer : Option AuthenticatedUser}
include h

/-- The list of products reads the same. -/
private theorem listPublicProducts_feed (containsInsensitive : String → String → Bool)
    (query : ListProductsQuery) (es : List Env) :
    ((listPublicProducts containsInsensitive query).feed es w).1 =
      ((listPublicProducts containsInsensitive query).feed es w').1 := by
  unfold listPublicProducts
  refine feed_read_congr (fun es => ?_) es
  refine feed_read_congr (fun es => ?_) es
  simp only [feed_pure, List.countP_eq_length_filter, h.filter_products containsInsensitive query]

omit h in
/-- The view is recorded without a look at the database. -/
private theorem recordProductView_feed (w w' : World) (product : ApiProduct) (es : List Env) :
    ((recordProductView product viewer >>= fun _ => pure product).feed es w).1 =
      ((recordProductView product viewer >>= fun _ => pure product).feed es w').1 := by
  unfold recordProductView
  split
  · rfl
  · split
    · rfl
    · cases es with
      | nil => rfl
      | cons env es =>
        simp only [feed_bind, mutate, feed_stmt_cons]
        cases env.dbError <;> rfl

/-- A product reads the same to an outsider. -/
private theorem getProductById_feed {id : Id}
    (hviewer : ∀ product, w.products.find? id = some product → IsOutsider viewer product)
    (es : List Env) :
    ((getProductById id viewer).feed es w).1 = ((getProductById id viewer).feed es w').1 := by
  refine feed_read_congr (fun es => ?_) es
  rcases h.product_cases id with ⟨hnone, hnone'⟩ | ⟨product, hfound, hfound', hpublic⟩ |
    ⟨product, product', hfound, hfound', howner, hhidden, hhidden'⟩
  · rw [hnone, hnone']
    rfl
  · rw [hfound, hfound']
    simp only [hpublic, ne_eq, not_true_eq_false, decide_false, Bool.false_and, Bool.false_eq_true,
      if_false]
    exact recordProductView_feed w w' product es
  · have houtsider := hviewer product hfound
    rw [hfound, hfound']
    simp only [hhidden, hhidden', houtsider.isOwnerOrAdmin, (houtsider.congr howner).isOwnerOrAdmin,
      ne_eq, not_false_eq_true, decide_true, Bool.true_and, Bool.not_false, if_true]
    split <;> rfl

/-- A product's versions read the same to an outsider. -/
private theorem listProductVersions_feed {productId : Id}
    (hviewer : ∀ product, w.products.find? productId = some product → IsOutsider viewer product)
    (es : List Env) :
    ((listProductVersions productId viewer).feed es w).1 =
      ((listProductVersions productId viewer).feed es w').1 := by
  refine feed_read_congr (fun es => ?_) es
  rcases h.product_cases productId with ⟨hnone, hnone'⟩ | ⟨product, hfound, hfound', hpublic⟩ |
    ⟨product, product', hfound, hfound', howner, hhidden, hhidden'⟩
  -- no product, a public one with its versions, or one that is hidden in both worlds
  · rw [hnone, hnone']
    rfl
  · have houtsider := hviewer product hfound
    have hpublished : w.isPublished productId = true := by simp [World.isPublished, hfound, hpublic]
    rw [hfound, hfound']
    simp only [hpublic, houtsider.isOwnerOrAdmin, ne_eq, not_true_eq_false, decide_false,
      Bool.false_and, Bool.false_eq_true, if_false, Bool.false_or]
    refine feed_read_congr (fun es => ?_) es
    simp only [feed_pure, h.filter_versions hpublished]
  · have houtsider := hviewer product hfound
    rw [hfound, hfound']
    simp only [hhidden, hhidden', houtsider.isOwnerOrAdmin, (houtsider.congr howner).isOwnerOrAdmin,
      ne_eq, not_false_eq_true, decide_true, Bool.true_and, Bool.not_false, if_true]
    rfl

/-- A version's document reads the same to an outsider. -/
private theorem getVersionSchema_feed {versionId : Id}
    (hviewer : ∀ version product, w.findVersionWithProduct versionId = some (version, product) →
      IsOutsider viewer product) (es : List Env) :
    ((getVersionSchema versionId viewer).feed es w).1 =
      ((getVersionSchema versionId viewer).feed es w').1 := by
  refine feed_read_congr (fun es => ?_) es
  rcases h.version_cases versionId with ⟨hnone, hnone'⟩ | ⟨version, product, hfound, hfound'⟩ |
    ⟨version, product, version', product', hfound, hfound', howner, hhidden, hhidden'⟩
  · rw [hnone, hnone']
    rfl
  · rw [hfound, hfound']
    -- the same row, so the same program, which makes no further statement
    dsimp only
    split
    · rfl
    · split <;> rfl
  · have houtsider := hviewer version product hfound
    rw [hfound, hfound']
    simp only [← Bool.decide_and, hhidden, hhidden', houtsider.isOwnerOrAdmin,
      (houtsider.congr howner).isOwnerOrAdmin, decide_false, Bool.not_false, Bool.and_self, if_true]
    rfl

/-- A product's plans read the same to an outsider. -/
private theorem listActivePlans_feed {productId : Id}
    (hviewer : ∀ product, w.products.find? productId = some product → IsOutsider viewer product)
    (es : List Env) :
    ((listActivePlans productId viewer).feed es w).1 =
      ((listActivePlans productId viewer).feed es w').1 := by
  refine feed_read_congr (fun es => ?_) es
  rcases h.product_cases productId with ⟨hnone, hnone'⟩ | ⟨product, hfound, hfound', hpublic⟩ |
    ⟨product, product', hfound, hfound', howner, hhidden, hhidden'⟩
  -- no product, a public one with its plans, or one that is hidden in both worlds
  · rw [hnone, hnone']
    rfl
  · have houtsider := hviewer product hfound
    have hpublished : w.isPublished productId = true := by simp [World.isPublished, hfound, hpublic]
    rw [hfound, hfound']
    simp only [hpublic, houtsider.isOwnerOrAdmin, ne_eq, not_true_eq_false, decide_false,
      Bool.and_false, Bool.false_eq_true, if_false]
    refine feed_read_congr (fun es => ?_) es
    rw [h.findPublishedVersion hpublished]
    cases w.findPublishedVersion productId with
    | none => rfl
    | some version =>
      refine feed_read_eq ?_ es
      rw [h.filter_plans hpublished]
  · have houtsider := hviewer product hfound
    rw [hfound, hfound']
    simp only [hhidden, hhidden', houtsider.isOwnerOrAdmin, (houtsider.congr howner).isOwnerOrAdmin,
      ne_eq, not_false_eq_true, decide_true, Bool.and_self, Bool.not_false, if_true]
    rfl

end Answers

/-! ### The five reads of the catalogue -/

inductive CatalogueRequest where
  | listPublicProducts (query : ListProductsQuery)
  | getProductById (id : Id)
  | listProductVersions (productId : Id)
  | getVersionSchema (versionId : Id)
  | listActivePlans (productId : Id)

inductive CatalogueAnswer where
  | products (response : ProductListResponse)
  | product (row : ApiProduct)
  | versions (items : List VersionDto)
  | schema (response : VersionSchemaDto)
  | plans (items : List Plan)
  deriving DecidableEq

def CatalogueRequest.op (containsInsensitive : String → String → Bool)
    (viewer : Option AuthenticatedUser) : CatalogueRequest → Op CatalogueAnswer
  | .listPublicProducts query =>
    .products <$> HivePoint.listPublicProducts containsInsensitive query
  | .getProductById id => .product <$> HivePoint.getProductById id viewer
  | .listProductVersions productId => .versions <$> HivePoint.listProductVersions productId viewer
  | .getVersionSchema versionId => .schema <$> HivePoint.getVersionSchema versionId viewer
  | .listActivePlans productId => .plans <$> HivePoint.listActivePlans productId viewer

/-- The product that the request is about, if it is about one. -/
def CatalogueRequest.product (w : World) : CatalogueRequest → Option ApiProduct
  | .listPublicProducts _ => none
  | .getProductById productId | .listProductVersions productId | .listActivePlans productId =>
    w.products.find? productId
  | .getVersionSchema versionId => (w.findVersionWithProduct versionId).map (·.2)

/-- A result does not tell more in another form. -/
private theorem feed_map_congr {α β : Type} {p : Op α} (f : α → β) {w w' : World} {es : List Env}
    (h : (p.feed es w).1 = (p.feed es w').1) :
    ((f <$> p).feed es w).1 = ((f <$> p).feed es w').1 := by
  simp only [map_eq_pure_bind, feed_bind]
  rcases hp : p.feed es w with ⟨r, is, s⟩
  rcases hp' : p.feed es w' with ⟨r', is', s'⟩
  rw [hp, hp'] at h
  obtain rfl : r = r' := h
  cases r with
  | none => rfl
  | some r => cases r <;> rfl

/-- The answers to a viewer who is neither an admin nor the owner do not depend on what is not
    public. -/
theorem catalogue_answers_eq {w w' : World} (h : SamePublic w w')
    (containsInsensitive : String → String → Bool) (viewer : Option AuthenticatedUser)
    (request : CatalogueRequest)
    (hviewer : ∀ product, request.product w = some product → IsOutsider viewer product)
    (es : List Env) :
    ((request.op containsInsensitive viewer).feed es w).1 =
      ((request.op containsInsensitive viewer).feed es w').1 := by
  cases request with
  | listPublicProducts query =>
    exact feed_map_congr _ (listPublicProducts_feed h containsInsensitive query es)
  | getProductById id => exact feed_map_congr _ (getProductById_feed h hviewer es)
  | listProductVersions productId => exact feed_map_congr _ (listProductVersions_feed h hviewer es)
  | getVersionSchema versionId =>
    refine feed_map_congr _ (getVersionSchema_feed h (fun version product hfound => ?_) es)
    exact hviewer product (by rw [CatalogueRequest.product, hfound]; rfl)
  | listActivePlans productId => exact feed_map_congr _ (listActivePlans_feed h hviewer es)

/-- A draft, under one title or another. -/
private def draftWorld (title : String) : World :=
  { World.empty with products := .singleton { sampleProduct with status := .draft, title } }

/-- The title of a draft is not found out. -/
theorem catalogue_answers_eq_draft :
    (((CatalogueRequest.getProductById "product").op (fun _ _ => true) none).feed
        [.available 0 "view"] (draftWorld "Search")).1 =
      (((CatalogueRequest.getProductById "product").op (fun _ _ => true) none).feed
        [.available 0 "view"] (draftWorld "Index")).1 := by
  refine catalogue_answers_eq ⟨fun id => ?_, fun _ => rfl, fun _ => rfl, rfl, rfl, rfl⟩ _ none _
    (fun product _ user huser => nomatch huser) _
  simp only [draftWorld, Table.find?, Table.singleton, List.find?_singleton]

end HivePoint
