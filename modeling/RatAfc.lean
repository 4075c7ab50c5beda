import RatAfc.Js.Value
import RatAfc.Geometry.Ellipse
import RatAfc.Channels
import RatAfc.Api
import RatAfc.State
import RatAfc.SendRequest
import RatAfc.Page.Step
import RatAfc.Page.Versions
import RatAfc.Page.Status
import RatAfc.Page.Config
import RatAfc.Page.Cache
import RatAfc.Page.View
import RatAfc.Page.Overlap
import RatAfc.Page.Render
import RatAfc.Page.Abstract
import RatAfc.AllowedRanges
