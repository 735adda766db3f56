import Soufang.Core.Lts
import Soufang.Core.Table
import Soufang.Core.Arrange
import Soufang.Core.Changelog
import Soufang.Core.RetryQueue
import Soufang.Core.Keyed
import Soufang.Core.Lookup
import Soufang.Core.Paging
import Soufang.Core.Like
import Soufang.Core.Calendar
import Soufang.Core.Retry
import Soufang.Core.CharClass
import Soufang.Core.Replace
import Soufang.Core.Buckets
import Soufang.Core.Requests
import Soufang.Core.SetStore
import Soufang.Core.Paths
import Soufang.Core.View
import Soufang.Core.Simulation
import Soufang.L1Data.Entity
import Soufang.L2Service.SearchService
import Soufang.L2Service.HandlerSpec
import Soufang.L2Service.HouseService
import Soufang.L2Service.HouseSpec
import Soufang.L2Service.HouseQuery
import Soufang.L2Service.QuerySpec
import Soufang.L2Service.Filters
import Soufang.L2Service.AddressService
import Soufang.L2Service.RegionLookup
import Soufang.L2Service.Delivery
import Soufang.L2Service.Subscribe
import Soufang.L2Service.UserService
import Soufang.L2Service.QiNiuService
import Soufang.L2Service.LoginUserUtil
import Soufang.L2Service.LoginUrl
import Soufang.L2Service.MapAggregate
import Soufang.L2Service.HouseShow
import Soufang.L2Service.UserInfo
import Soufang.L2Service.Security
import Soufang.L3System.System
import Soufang.L3System.Agreement
import Soufang.L3System.Repair
import Soufang.L3System.Join
import Soufang.L3System.Orderly
import Soufang.L3System.Convergence
import Soufang.L3System.Freshness
import Soufang.L3System.Listing
import Soufang.L3System.Cover
import Soufang.L3System.Ownership
import Soufang.L3System.SaveAtomic
import Soufang.L3System.Visibility
import Soufang.L3System.StatusMessage
import Soufang.L3System.Retries
import Soufang.L3System.LbsTable
import Soufang.L3System.SubwayCheck
import Soufang.L3System.SaveFrame
import Soufang.L3System.Reservations
import Soufang.L3System.Passwords
import Soufang.L3System.PageWindow
import Soufang.L3System.PageWalk
import Soufang.L3System.LoadMore
import Soufang.L3System.SortParams
import Soufang.L3System.AdminFilter
import Soufang.L3System.Consumer
import Soufang.L3System.TagSets
import Soufang.L3System.PhoneLogin
import Soufang.L3System.UploadPhoto
import Soufang.L3System.IndexView
import Soufang.L3System.Integrity
import Soufang.L3System.Site
import Soufang.L3System.Access
import Soufang.L3System.SiteSystem
import Soufang.L3System.References
import Soufang.L3System.TextQueue
import Soufang.L3System.LbsExchange
import Soufang.L3System.Online
import Soufang.L4Concurrency.StatusRace
import Soufang.L4Concurrency.EditRace
import Soufang.L4Concurrency.SubscribeRace
import Soufang.L4Concurrency.LoginFailRace
